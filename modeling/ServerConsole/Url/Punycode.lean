/-!
# Punycode

The encoding of a label with characters outside ASCII as one within it: the ASCII characters,
a hyphen when there are any, and the positions and values of the others as a chain of differences in
base 36, with digit thresholds that follow an adapting bias.

* `punycode?`    the encoded form of a label;
* `unpunycode?`  the label of an encoded form.
-/

namespace ServerConsole.Url

/-! ## digits and bias -/

/-- `a` to `z` are 0 to 25, `0` to `9` are 26 to 35 -/
def punyDigit (n : Nat) : Char := if n < 26 then Char.ofNat (97 + n) else Char.ofNat (22 + n)

def punyValue? (c : Char) : Option Nat :=
  if 'a' ≤ c ∧ c ≤ 'z' then some (c.toNat - 97)
  else if 'A' ≤ c ∧ c ≤ 'Z' then some (c.toNat - 65)
  else if '0' ≤ c ∧ c ≤ '9' then some (c.toNat - 22)
  else none

/-- the threshold of the digit of weight `36 ^ k` -/
def punyThreshold (bias k : Nat) : Nat := min 26 (max 1 (36 * (k + 1) - bias))

theorem one_le_punyThreshold (bias k : Nat) : 1 ≤ punyThreshold bias k := by
  simp only [punyThreshold]
  omega

theorem punyThreshold_lt (bias k : Nat) : punyThreshold bias k < 36 := by
  simp only [punyThreshold]
  omega

def punySettle (delta k : Nat) : Nat :=
  if 455 < delta then punySettle (delta / 35) (k + 36) else k + 36 * delta / (delta + 38)
termination_by delta
decreasing_by omega

/-- the bias after a difference, over the count of characters placed so far -/
def punyAdapt (delta count : Nat) (first : Bool) : Nat :=
  let delta := if first then delta / 700 else delta / 2
  punySettle (delta + delta / count) 0

/-! ## writing -/

def punyNumber (bias k n : Nat) : List Char :=
  let t := punyThreshold bias k
  if n < t then [punyDigit n]
  else punyDigit (t + (n - t) % (36 - t)) :: punyNumber bias (k + 1) ((n - t) / (36 - t))
termination_by n
decreasing_by
  have := one_le_punyThreshold bias k
  exact Nat.lt_of_le_of_lt (Nat.div_le_self _ _) (by omega)

/-- a difference under way -/
structure PunyState where
  out : List Char
  delta : Nat
  bias : Nat
  /-- characters placed -/
  count : Nat
  first : Bool

/-- passes one character of the label while the characters of value `value` are placed -/
def punyPass (value : Nat) (s : PunyState) (c : Char) : PunyState :=
  if c.toNat < value then { s with delta := s.delta + 1 }
  else if c.toNat = value then
    { out := s.out ++ punyNumber s.bias 0 s.delta
      delta := 0
      bias := punyAdapt s.delta (s.count + 1) s.first
      count := s.count + 1
      first := false }
  else s

/-- places the characters of each value in turn; `next` is one above the last value done -/
def punyPlace (label : List Char) : List Nat → Nat → PunyState → PunyState
  | [], _, s => s
  | value :: values, next, s =>
    let s := { s with delta := s.delta + (value - next) * (s.count + 1) }
    let s := label.foldl (punyPass value) s
    punyPlace label values (value + 1) { s with delta := s.delta + 1 }

/-- the values outside ASCII in ascending order, each once -/
def punyValues (label : List Char) : List Nat :=
  ((label.map Char.toNat).filter (128 ≤ ·)).mergeSort.eraseReps

def punycode (label : List Char) : List Char :=
  let basic := label.filter (·.toNat < 128)
  let start := if basic.isEmpty then [] else basic ++ ['-']
  (punyPlace label (punyValues label) 128 ⟨start, 0, 72, basic.length, true⟩).out

/-! ## reading -/

/-- a label under way: the characters so far, and the number being read -/
structure PunyReader where
  label : List Char
  value : Nat
  position : Nat
  bias : Nat
  first : Bool
  /-- digits of the number read, the weight of the next one, and the sum so far -/
  digits : Nat
  weight : Nat
  delta : Nat

/-- puts the character that a finished number tells of into its place -/
def PunyReader.finish? (r : PunyReader) (delta : Nat) : Option PunyReader :=
  let count := r.label.length + 1
  let position := r.position + delta
  let value := r.value + position / count
  let place := position % count
  if h : value.isValidChar then
    some
      { label := r.label.insertIdx place (Char.ofNatAux value h)
        value := value
        position := place + 1
        bias := punyAdapt delta count r.first
        first := false
        digits := 0
        weight := 1
        delta := 0 }
  else none

def PunyReader.feed? (r : PunyReader) (c : Char) : Option PunyReader :=
  (punyValue? c).bind fun d =>
    let t := punyThreshold r.bias r.digits
    let delta := r.delta + d * r.weight
    if d < t then r.finish? delta
    else some { r with digits := r.digits + 1, weight := r.weight * (36 - t), delta := delta }

/-- the text before the last hyphen, and the text after it -/
def splitLastHyphen (cs : List Char) : List Char × List Char :=
  let tail := (cs.reverse.takeWhile (· != '-')).reverse
  (cs.take (cs.length - tail.length - 1), tail)

def unpunycode? (cs : List Char) : Option (List Char) :=
  let (basic, tail) := splitLastHyphen cs
  let start : PunyReader := ⟨basic, 128, 0, 72, true, 0, 1, 0⟩
  match tail.foldlM PunyReader.feed? start with
  | some r => if r.digits = 0 then some r.label else none
  | none => none

end ServerConsole.Url

/-!
# Hexadecimal digits

* `hexValue?`  the value of one digit, either case;
* `hexDigit`   the lower-case digit of a value below sixteen;
* `hexPair`    two digits of a byte, `hexWord` sixteen digits of a 64-bit word.
-/

namespace ServerConsole.Text

def hexValue? (c : Char) : Option Nat :=
  if '0' ≤ c ∧ c ≤ '9' then some (c.toNat - 48)
  else if 'a' ≤ c ∧ c ≤ 'f' then some (c.toNat - 87)
  else if 'A' ≤ c ∧ c ≤ 'F' then some (c.toNat - 55)
  else none

def isHex (c : Char) : Bool := (hexValue? c).isSome

def hexDigit (n : Nat) : Char :=
  if n < 10 then Char.ofNat (48 + n) else Char.ofNat (87 + n)

def hexDigitUpper (n : Nat) : Char :=
  if n < 10 then Char.ofNat (48 + n) else Char.ofNat (55 + n)

theorem hexValue_hexDigit (n : Nat) (h : n < 16) : hexValue? (hexDigit n) = some n := by
  have : ∀ m : Fin 16, hexValue? (hexDigit m) = some m.val := by decide
  exact this ⟨n, h⟩

/-- exactly `k` lower-case digits of `n`, most significant first -/
def hexDigits : Nat → Nat → List Char
  | 0, _ => []
  | k + 1, n => hexDigits k (n / 16) ++ [hexDigit (n % 16)]

theorem length_hexDigits (k n : Nat) : (hexDigits k n).length = k := by
  induction k generalizing n with
  | zero => rfl
  | succ k ih => simp [hexDigits, ih]

def hexPair (b : UInt8) : List Char := hexDigits 2 b.toNat

def hexWord (w : UInt64) : String := String.ofList (hexDigits 16 w.toNat)

/-- the number written by a list of digits, `none` when a character is no digit -/
def hexNumber? (cs : List Char) : Option Nat :=
  cs.foldl (fun acc c => acc.bind fun n => (hexValue? c).map (16 * n + ·)) (some 0)

/-- fewest lower-case digits of a number, `0` for zero -/
def hexText (n : Nat) : List Char :=
  match (hexDigits 16 n).dropWhile (· == '0') with
  | [] => ['0']
  | cs => cs

/-- the bytes written two digits each -/
def hexBytes? : List Char → Option (List UInt8)
  | [] => some []
  | [_] => none
  | a :: b :: rest =>
    match hexValue? a, hexValue? b, hexBytes? rest with
    | some x, some y, some bytes => some ((16 * x + y).toUInt8 :: bytes)
    | _, _, _ => none

end ServerConsole.Text

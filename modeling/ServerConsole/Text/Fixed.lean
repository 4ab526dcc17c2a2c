import ServerConsole.Text.Decimal

/-!
# Fixed-point text of a double

A finite double is `± mantissa * 2 ^ exponent`. `fixed places x` writes it with `places` digits
after the point, rounded on the exact value, a half to the even neighbour; the sign of a negative
value is written even when every digit is zero.

* `Binary64`      sign, mantissa and exponent of a finite double, from its bits;
* `roundHalfEven` a quotient of naturals rounded to the nearest natural;
* `fixed`         the text.
-/

namespace ServerConsole.Text

/-! ## the value of a double -/

structure Binary64 where
  negative : Bool
  mantissa : Nat
  exponent : Int

inductive Magnitude
  | finite (value : Binary64)
  | infinite (negative : Bool)
  | notANumber

/-- reads the three fields of the 64-bit word -/
def Magnitude.ofBits (bits : UInt64) : Magnitude :=
  let negative := bits >>> 63 == 1
  let field := ((bits >>> 52) &&& 0x7ff).toNat
  let fraction := (bits &&& 0xfffffffffffff).toNat
  if field == 0x7ff then
    if fraction == 0 then .infinite negative else .notANumber
  else if field == 0 then .finite ⟨negative, fraction, -1074⟩
  else .finite ⟨negative, fraction + 4503599627370496, field - 1075⟩

/-! ## rounding -/

def roundHalfEven (num den : Nat) : Nat :=
  let q := num / den
  let r := num % den
  if 2 * r < den then q
  else if den < 2 * r then q + 1
  else q + q % 2

theorem roundHalfEven_one (n : Nat) : roundHalfEven n 1 = n := by
  simp [roundHalfEven, Nat.mod_one]

/-- `value * 10 ^ places`, rounded -/
def Binary64.scaled (x : Binary64) (places : Nat) : Nat :=
  match x.exponent with
  | .ofNat e => x.mantissa * Nat.pow 2 e * Nat.pow 10 places
  | .negSucc e => roundHalfEven (x.mantissa * Nat.pow 10 places) (Nat.pow 2 (e + 1))

/-! ## text -/

/-- the digits of `n / 10 ^ places` -/
def pointed (places n : Nat) : List Char :=
  match places with
  | 0 => digits n
  | _ => digits (n / Nat.pow 10 places) ++ '.' :: padded places (n % Nat.pow 10 places)

def signChars (negative : Bool) : List Char := if negative then ['-'] else []

def Magnitude.chars (places : Nat) : Magnitude → List Char
  | .finite x => signChars x.negative ++ pointed places (x.scaled places)
  | .infinite negative => signChars negative ++ ['i', 'n', 'f']
  | .notANumber => ['N', 'a', 'N']

def fixed (places : Nat) (x : Float) : String :=
  String.ofList ((Magnitude.ofBits x.toBits).chars places)

/-- 0.25 and 0.75 with one place: both halves go to the even digit -/
example : (Magnitude.ofBits 0x3fd0000000000000).chars 1 = ['0', '.', '2']
    ∧ (Magnitude.ofBits 0x3fe8000000000000).chars 1 = ['0', '.', '8'] := by
  constructor <;> decide +kernel

end ServerConsole.Text

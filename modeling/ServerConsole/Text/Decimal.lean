/-!
# Decimal numerals

* `digits n`      the digits of `n`, most significant first, no leading zero;
* `ofDigits cs`   the number a digit list stands for;
* `natural? cs`   reads a non-empty digit list;
* `unsigned? limit cs`  the same with an optional plus sign and an upper bound.
-/

namespace ServerConsole.Text

/-! ## digits -/

def isDigit (c : Char) : Bool := '0' ≤ c && c ≤ '9'

def digitValue (c : Char) : Nat := c.toNat - 48

def digitChar (n : Nat) : Char := Char.ofNat (48 + n % 10)

theorem isDigit_digitChar (n : Nat) : isDigit (digitChar n) = true := by
  have : ∀ m : Fin 10, isDigit (Char.ofNat (48 + m.val)) = true := by decide
  exact this ⟨n % 10, Nat.mod_lt _ (by decide)⟩

theorem digitValue_digitChar (n : Nat) : digitValue (digitChar n) = n % 10 := by
  have : ∀ m : Fin 10, digitValue (Char.ofNat (48 + m.val)) = m.val := by decide
  exact this ⟨n % 10, Nat.mod_lt _ (by decide)⟩

/-! ## numerals -/

def digits (n : Nat) : List Char :=
  if n < 10 then [digitChar n] else digits (n / 10) ++ [digitChar n]
termination_by n

def decimal (n : Nat) : String := String.ofList (digits n)

def ofDigits (cs : List Char) : Nat := cs.foldl (fun acc c => 10 * acc + digitValue c) 0

theorem ofDigits_append_singleton (cs : List Char) (c : Char) :
    ofDigits (cs ++ [c]) = 10 * ofDigits cs + digitValue c := by
  simp [ofDigits]

theorem ofDigits_digits (n : Nat) : ofDigits (digits n) = n := by
  induction n using digits.induct with
  | case1 n h =>
    rw [digits, if_pos h]
    show 10 * 0 + digitValue (digitChar n) = n
    rw [digitValue_digitChar]
    omega
  | case2 n h ih =>
    rw [digits, if_neg h, ofDigits_append_singleton, ih, digitValue_digitChar]
    omega

theorem all_isDigit_digits (n : Nat) : (digits n).all isDigit = true := by
  induction n using digits.induct with
  | case1 n h => rw [digits, if_pos h]; simp [isDigit_digitChar]
  | case2 n h ih => rw [digits, if_neg h]; simp [isDigit_digitChar, ih]

theorem digits_ne_nil (n : Nat) : digits n ≠ [] := by
  rw [digits]
  split <;> simp

def natural? (cs : List Char) : Option Nat :=
  if cs.isEmpty || !cs.all isDigit then none else some (ofDigits cs)

theorem natural?_digits (n : Nat) : natural? (digits n) = some n := by
  simp [natural?, all_isDigit_digits, ofDigits_digits, digits_ne_nil]

/-- a numeral with an optional plus sign, refused above `limit` -/
def unsigned? (limit : Nat) (cs : List Char) : Option Nat :=
  let body := match cs with
    | '+' :: rest => rest
    | _ => cs
  (natural? body).filter (· ≤ limit)

/-- digits with zeros in front up to a width -/
def padded (width n : Nat) : List Char :=
  let cs := digits n
  List.replicate (width - cs.length) '0' ++ cs

end ServerConsole.Text

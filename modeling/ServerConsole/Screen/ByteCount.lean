import ServerConsole.Text.Fixed

/-!
# Byte counts

Counts from 1024 on are shown in the largest binary unit of which there is at least one, up to TiB,
with one decimal, a half to the even digit. A count of more than 53 significant bits is first
rounded to that many.

* `rounded53`  the count as it is shown;
* `unitOf`     the index of its unit;
* `formatBytes`  the text.
-/

namespace ServerConsole.Screen

open Text

/-- the nearest number of at most 53 significant bits, a half to the even one -/
def rounded53 (n : Nat) : Nat :=
  let spare := Nat.pow 2 (n.log2 - 52)
  roundHalfEven n spare * spare

def units : List String := ["KiB", "MiB", "GiB", "TiB"]

/-- the largest index of a unit that the count fills, at most three -/
def unitOf (n : Nat) : Nat :=
  if n < 1048576 then 0 else if n < 1073741824 then 1 else if n < 1099511627776 then 2 else 3

/-- bytes in a unit -/
def unitSize (unit : Nat) : Nat := Nat.pow 1024 (unit + 1)

/-- tenths of the unit, rounded -/
def tenths (n : Nat) : Nat := roundHalfEven (10 * n) (unitSize (unitOf n))

def formatBytes (bytes : UInt64) : String :=
  if bytes < 1024 then decimal bytes.toNat ++ " B"
  else
    let n := rounded53 bytes.toNat
    String.ofList (pointed 1 (tenths n)) ++ " " ++ (units[unitOf n]?).getD ""

end ServerConsole.Screen

import ServerConsole.Text.Hex
import ServerConsole.Text.Utf8

/-!
# Percent encoding

A character of an escape set, and every character outside ASCII, is written as its UTF-8 bytes,
each as a percent sign and two upper-case hexadecimal digits.

* `controlSet`, `fragmentSet`, `querySet`, `specialQuerySet`, `pathSet`, `userinfoSet`
                   the ASCII characters escaped in each part of a URL;
* `percentEncode`  a text with the characters of a set escaped;
* `percentDecode`  bytes with the escapes undone; a percent sign without two digits stays.
-/

namespace ServerConsole.Url

open Text

/-! ## escape sets -/

def controlSet (c : Char) : Bool := c.val < 0x20 || c.val == 0x7f

def fragmentSet (c : Char) : Bool := controlSet c || [' ', '"', '<', '>', '\x60'].contains c

def querySet (c : Char) : Bool := controlSet c || [' ', '"', '#', '<', '>'].contains c

/-- the query of a special scheme -/
def specialQuerySet (c : Char) : Bool := querySet c || c == '\''

def pathSet (c : Char) : Bool := fragmentSet c || ['#', '?', '{', '}'].contains c

def userinfoSet (c : Char) : Bool :=
  pathSet c || ['/', ':', ';', '=', '@', '[', '\\', ']', '^', '|'].contains c

/-! ## writing -/

def escape (b : UInt8) : List Char :=
  ['%', hexDigitUpper (b.toNat / 16), hexDigitUpper (b.toNat % 16)]

def isAscii (c : Char) : Bool := c.val < 0x80

def encodeChar (escaped : Char → Bool) (c : Char) : List Char :=
  if isAscii c && !escaped c then [c] else (String.utf8EncodeChar c).flatMap escape

def percentEncode (escaped : Char → Bool) (cs : List Char) : List Char :=
  cs.flatMap (encodeChar escaped)

theorem percentEncode_nil (escaped : Char → Bool) : percentEncode escaped [] = [] := rfl

theorem percentEncode_cons (escaped : Char → Bool) (c : Char) (cs : List Char) :
    percentEncode escaped (c :: cs) = encodeChar escaped c ++ percentEncode escaped cs := rfl

theorem percentEncode_append (escaped : Char → Bool) (a b : List Char) :
    percentEncode escaped (a ++ b) = percentEncode escaped a ++ percentEncode escaped b := by
  simp [percentEncode]

/-- a text of plain characters is written as it is -/
theorem percentEncode_of_all (escaped : Char → Bool) (cs : List Char)
    (h : cs.all (fun c => isAscii c && !escaped c) = true) : percentEncode escaped cs = cs := by
  induction cs with
  | nil => rfl
  | cons c cs ih =>
    rw [List.all_cons, Bool.and_eq_true] at h
    rw [percentEncode_cons, ih h.2, encodeChar, if_pos h.1]
    rfl

/-! ## reading -/

def hexByte? (b : UInt8) : Option Nat := hexValue? (Char.ofNat b.toNat)

def percentDecode : List UInt8 → List UInt8
  | a :: b :: c :: rest =>
    match a == 0x25, hexByte? b, hexByte? c with
    | true, some x, some y => (16 * x + y).toUInt8 :: percentDecode rest
    | _, _, _ => a :: percentDecode (b :: c :: rest)
  | short => short

example : percentDecode (encode ['a', '%', '2', '0', '%', '4']) = encode ['a', ' ', '%', '4'] := by
  decide

end ServerConsole.Url

import ServerConsole.Json.Shape

/-!
# Server identifiers

An identifier is a 128-bit number. It is written as 32 lower-case hexadecimal digits in groups of
8, 4, 4, 4 and 12; it is read in either case, also without hyphens, in braces, or as a URN.

* `ServerId.chars`   the written form;
* `ServerId.ofChars?`  reads the four accepted forms.
-/

namespace ServerConsole

open Text

structure ServerId where
  bits : BitVec 128
  deriving DecidableEq

namespace ServerId

def nil : ServerId := ⟨0⟩

/-! ## written form -/

/-- the lengths of the groups that a hyphen follows -/
def groups : List Nat := [8, 4, 4, 4]

def hyphenated : List Nat → List Char → List Char
  | [], cs => cs
  | n :: ns, cs => cs.take n ++ '-' :: hyphenated ns (cs.drop n)

def chars (id : ServerId) : List Char := hyphenated groups (hexDigits 32 id.bits.toNat)

def text (id : ServerId) : String := String.ofList id.chars

/-! ## reading -/

/-- takes the hyphens out of their places -/
def unhyphenated? : List Nat → List Char → Option (List Char)
  | [], cs => some cs
  | n :: ns, cs =>
    match cs.drop n with
    | '-' :: rest => (unhyphenated? ns rest).map (cs.take n ++ ·)
    | _ => none

def ofDigits? (cs : List Char) : Option ServerId :=
  if cs.length = 32 then (hexNumber? cs).map fun n => ⟨BitVec.ofNat 128 n⟩ else none

def ofHyphenated? (cs : List Char) : Option ServerId :=
  if cs.length = 36 then (unhyphenated? groups cs).bind ofDigits? else none

/-- the text between braces -/
def braced? : List Char → Option (List Char)
  | '{' :: rest => if rest.getLast? = some '}' then some rest.dropLast else none
  | _ => none

def urn : List Char := ['u', 'r', 'n', ':', 'u', 'u', 'i', 'd', ':']

def ofChars? (cs : List Char) : Option ServerId :=
  match cs.length with
  | 32 => ofDigits? cs
  | 36 => ofHyphenated? cs
  | 38 => (braced? cs).bind ofHyphenated?
  | 45 => if (cs.take urn.length).map Char.toLower = urn then ofHyphenated? (cs.drop urn.length) else none
  | _ => none

def ofText? (s : String) : Option ServerId := ofChars? s.toList

def shape : Json.Shape ServerId := .word ofText?

end ServerId

end ServerConsole

import ServerConsole.Text.Decimal
import ServerConsole.Text.Hex
import ServerConsole.Url.Domain

/-!
# Hosts

A host is a name or an IP address.

* `Fault`           why a text is no URL, with its wording;
* `Host.parse`      the host of a special scheme: a domain name, or an address when its last part is
                    a number;
* `Host.parseOpaque`  the host of any other scheme, a name that is only escaped;
* `Host.chars`      the written form.
-/

namespace ServerConsole.Url

open Text

/-! ## faults -/

inductive Fault
  | noScheme
  | emptyHost
  | badPort
  | badIpv4
  | badIpv6
  | badDomainCharacter
  | badDomain
  deriving DecidableEq

def Fault.message : Fault → String
  | noScheme => "relative URL without a base"
  | emptyHost => "empty host"
  | badPort => "invalid port number"
  | badIpv4 => "invalid IPv4 address"
  | badIpv6 => "invalid IPv6 address"
  | badDomainCharacter => "invalid domain character"
  | badDomain => "invalid international domain name"

/-! ## IPv4 -/

structure Ipv4 where
  bits : UInt32
  deriving DecidableEq

namespace Ipv4

/-- the number written in a base, `none` when a character is no digit of it -/
def inBase? (base : Nat) (cs : List Char) : Option Nat :=
  cs.foldlM (fun n c => (hexValue? c).bind fun d => if d < base then some (base * n + d) else none) 0

/-- a part of an address: hexadecimal after `0x`, octal after `0`, else decimal -/
def part? : List Char → Option Nat
  | [] => none
  | '0' :: 'x' :: cs | '0' :: 'X' :: cs => inBase? 16 cs
  | ['0'] => some 0
  | '0' :: cs => inBase? 8 cs
  | cs => inBase? 10 cs

/-- the parts between the dots; one dot at the end does not count -/
def partsOf (cs : List Char) : List (List Char) :=
  let parts := splitOn '.' cs
  if parts.getLast? = some [] then parts.dropLast else parts

/-- whether a name has to be read as an address -/
def endsInNumber (cs : List Char) : Bool :=
  match (partsOf cs).getLast? with
  | none | some [] => false
  | some last => last.all isDigit || (part? last).isSome

/-- the last part fills the bytes that the parts before it leave -/
def ofParts? (numbers : List Nat) : Option Ipv4 :=
  match numbers.getLast? with
  | none => none
  | some last =>
    let bytes := numbers.dropLast
    if 4 < numbers.length || Nat.pow 256 (4 - bytes.length) ≤ last || bytes.any (255 < ·) then none
    else some ⟨(bytes.foldl (256 * · + ·) 0 * Nat.pow 256 (4 - bytes.length) + last).toUInt32⟩

def parse? (cs : List Char) : Option Ipv4 := ((partsOf cs).mapM part?).bind ofParts?

def chars (a : Ipv4) : List Char :=
  let byte (shift : Nat) : List Char := digits (a.bits.toNat / Nat.pow 256 shift % 256)
  byte 3 ++ '.' :: byte 2 ++ '.' :: byte 1 ++ '.' :: byte 0

end Ipv4

/-! ## IPv6 -/

/-- eight pieces of sixteen bits -/
structure Ipv6 where
  pieces : List UInt16
  deriving DecidableEq

namespace Ipv6

/-- one to four hexadecimal digits -/
def piece? (cs : List Char) : Option UInt16 :=
  if cs.isEmpty || 4 < cs.length then none else (hexNumber? cs).map Nat.toUInt16

/-- a decimal byte without leading zeros -/
def byte? (cs : List Char) : Option Nat :=
  if cs.length ≠ 1 ∧ cs.head? = some '0' then none else (natural? cs).filter (· ≤ 255)

/-- the two pieces of an IPv4 address in dotted form -/
def dotted? (cs : List Char) : Option (List UInt16) :=
  match (splitOn '.' cs).mapM byte? with
  | some [a, b, c, d] => some [(256 * a + b).toUInt16, (256 * c + d).toUInt16]
  | _ => none

/-- pieces joined by colons; the last one may stand as an IPv4 address when `tail` says so -/
def joined? (tail : Bool) : List (List Char) → Option (List UInt16)
  | [] => some []
  | [last] =>
    if tail && last.contains '.' then dotted? last else (piece? last).map ([·])
  | first :: more =>
    match piece? first, joined? tail more with
    | some p, some ps => some (p :: ps)
    | _, _ => none

/-- the pieces of a side of the double colon, which may be empty -/
def side? (tail : Bool) (cs : List Char) : Option (List UInt16) :=
  if cs.isEmpty then some [] else joined? tail (splitOn ':' cs)

/-- the texts around the first double colon -/
def splitDouble : List Char → Option (List Char × List Char)
  | ':' :: ':' :: cs => some ([], cs)
  | c :: cs => (splitDouble cs).map fun (a, b) => (c :: a, b)
  | [] => none

/-- a double colon stands for one or more pieces of zeros -/
def parse? (cs : List Char) : Option Ipv6 :=
  match splitDouble cs with
  | none => ((side? true cs).filter (·.length = 8)).map (⟨·⟩)
  | some (front, back) =>
    match side? false front, side? true back with
    | some a, some b =>
      if a.length + b.length ≤ 7 then
        some ⟨a ++ List.replicate (8 - a.length - b.length) 0 ++ b⟩
      else none
    | _, _ => none

def zerosFrom (ps : List UInt16) : Nat := (ps.takeWhile (· == 0)).length

/-- where the longest run of at least two zero pieces starts, the first of several, and its length -/
def longestRun (ps : List UInt16) : Option (Nat × Nat) :=
  let runs := (List.range ps.length).map fun i => (i, zerosFrom (ps.drop i))
  let best := runs.foldl (fun best run => if best.2 < run.2 then run else best) (0, 0)
  if 2 ≤ best.2 then some best else none

def written (ps : List UInt16) : List Char := joinWith ':' (ps.map fun p => hexText p.toNat)

def chars (a : Ipv6) : List Char :=
  match longestRun a.pieces with
  | none => written a.pieces
  | some (start, length) =>
    written (a.pieces.take start) ++ ':' :: ':' :: written (a.pieces.drop (start + length))

end Ipv6

/-! ## hosts -/

inductive Host
  | name (chars : List Char)
  | ipv4 (address : Ipv4)
  | ipv6 (address : Ipv6)
  deriving DecidableEq

namespace Host

/-- the host of a URL that names none -/
def empty : Host := name []

def isEmpty (h : Host) : Bool := h = empty

def chars : Host → List Char
  | name cs => cs
  | ipv4 a => a.chars
  | ipv6 a => '[' :: a.chars ++ [']']

/-- an address in brackets, or what stands there instead of one -/
def bracketed (rest : List Char) : Except Fault Host :=
  if rest.getLast? = some ']' then
    match Ipv6.parse? rest.dropLast with
    | some a => .ok (ipv6 a)
    | none => .error .badIpv6
  else .error .badIpv6

/-- a domain name in its written form -/
def ofDomain (domain : List Char) : Except Fault Host :=
  if domain.isEmpty then .error .emptyHost
  else if Ipv4.endsInNumber domain then
    match Ipv4.parse? domain with
    | some a => .ok (ipv4 a)
    | none => .error .badIpv4
  else .ok (name domain)

def parse : List Char → Except Fault Host
  | '[' :: rest => bracketed rest
  | cs =>
    match (decode? (percentDecode (encode cs))).bind asciiDomain? with
    | some domain => ofDomain domain
    | none => .error .badDomain

def isForbidden (c : Char) : Bool :=
  ['\x00', '\t', '\n', '\r', ' ', '#', '/', ':', '<', '>', '?', '@', '[', '\\', ']', '^', '|'].contains c

def parseOpaque : List Char → Except Fault Host
  | '[' :: rest => bracketed rest
  | cs =>
    if cs.any isForbidden then .error .badDomainCharacter
    else .ok (name (percentEncode controlSet cs))

end Host

end ServerConsole.Url

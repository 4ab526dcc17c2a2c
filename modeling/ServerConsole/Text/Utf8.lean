/-!
# UTF-8

* `byteLength`  bytes of a character list;
* `encode`      its bytes;
* `decodeLossy` bytes to characters, each maximal ill-formed piece replaced by U+FFFD;
* `decode?`     bytes to characters, refused when ill-formed.

A lead byte fixes how many continuation bytes follow and the range of the first one; a sequence
that breaks off is replaced as one piece together with the continuation bytes read so far.
-/

namespace ServerConsole.Text

/-! ## lengths and bytes -/

def byteLength (cs : List Char) : Nat := cs.foldl (fun n c => n + c.utf8Size) 0

def encode (cs : List Char) : List UInt8 := cs.flatMap String.utf8EncodeChar

theorem encode_nil : encode [] = [] := rfl

theorem encode_cons (c : Char) (cs : List Char) :
    encode (c :: cs) = String.utf8EncodeChar c ++ encode cs := rfl

theorem encode_append (a b : List Char) : encode (a ++ b) = encode a ++ encode b := by
  simp [encode]

/-! ## decoding -/

def replacement : Char := '\uFFFD'

/-- what a lead byte announces: the range of the next byte and how many more follow it -/
def leadRange? (b : UInt8) : Option (UInt8 × UInt8 × Nat) :=
  if 0xc2 ≤ b && b ≤ 0xdf then some (0x80, 0xbf, 0)
  else if b == 0xe0 then some (0xa0, 0xbf, 1)
  else if b == 0xed then some (0x80, 0x9f, 1)
  else if 0xe1 ≤ b && b ≤ 0xef then some (0x80, 0xbf, 1)
  else if b == 0xf0 then some (0x90, 0xbf, 2)
  else if 0xf1 ≤ b && b ≤ 0xf3 then some (0x80, 0xbf, 2)
  else if b == 0xf4 then some (0x80, 0x8f, 2)
  else none

/-- the payload bits of a lead byte -/
def leadBits (b : UInt8) : Nat :=
  if b < 0xe0 then b.toNat - 0xc0 else if b < 0xf0 then b.toNat - 0xe0 else b.toNat - 0xf0

/-- a sequence under way: bits so far, range of the next byte, bytes after that one -/
structure Pending where
  bits : Nat
  low : UInt8
  high : UInt8
  more : Nat

/-- one byte outside any sequence: a finished character, a new sequence, or an ill-formed byte -/
def startByte (b : UInt8) : List (Option Char) × Option Pending :=
  if b < 0x80 then ([some (Char.ofNat b.toNat)], none)
  else match leadRange? b with
    | some (low, high, more) => ([], some ⟨leadBits b, low, high, more⟩)
    | none => ([none], none)

/-- one byte; `none` in the output marks an ill-formed piece -/
def feedByte (pending : Option Pending) (b : UInt8) : List (Option Char) × Option Pending :=
  match pending with
  | none => startByte b
  | some p =>
    if p.low ≤ b && b ≤ p.high then
      let bits := p.bits * 64 + (b.toNat - 0x80)
      match p.more with
      | 0 => ([some (Char.ofNat bits)], none)
      | more + 1 => ([], some ⟨bits, 0x80, 0xbf, more⟩)
    else
      let (out, next) := startByte b
      (none :: out, next)

/-- characters and ill-formed pieces of a byte list, in order -/
def pieces (bytes : List UInt8) : List (Option Char) :=
  let (out, pending) := bytes.foldl
    (fun (st : List (Option Char) × Option Pending) b =>
      let (more, pending) := feedByte st.2 b
      (more.reverse ++ st.1, pending)) ([], none)
  (match pending with
    | some _ => none :: out
    | none => out).reverse

def decodeLossy (bytes : List UInt8) : List Char :=
  (pieces bytes).map (·.getD replacement)

def decode? (bytes : List UInt8) : Option (List Char) :=
  (pieces bytes).mapM id

example : decodeLossy [0x61, 0xe2, 0x82, 0x61, 0xff] = ['a', '\uFFFD', 'a', '\uFFFD'] := by decide

end ServerConsole.Text

import ServerConsole.Unicode.Direction
import ServerConsole.Unicode.Joining
import ServerConsole.Url.Folding
import ServerConsole.Url.Percent
import ServerConsole.Url.Punycode

/-!
# Domain names

The written form of a domain name is lower case and within ASCII: the name is folded and cut into
labels at its dots, and a label with other characters is encoded and marked with `xn--`.

* `Label.read?`     a label of a folded name, encoded already or not;
* `isWellFormed`    what a label has to look like wherever it stands;
* `isDirected`      what it has to look like in a name with letters that are written to the left;
* `asciiDomain?`    the written form of a name.
-/

namespace ServerConsole.Url

open Text Unicode

/-! ## well-formed labels -/

/-- the characters within ASCII that no name may hold -/
def isForbiddenInDomain (c : Char) : Bool :=
  c.val ≤ 0x20 || c.val == 0x7f
    || ['%', '#', '/', ':', '<', '>', '?', '@', '[', '\\', ']', '^', '|'].contains c

/-- a sign that joins the letter before it to the one behind it -/
def isVirama (c : Char) : Bool := combiningClass c == 9

/-- whether the first letter, marks passed, joins towards the marks -/
def meetsJoining (joins : Char → Bool) (cs : List Char) : Bool :=
  (cs.dropWhile isTransparent).head?.any joins

/-- joiners and non-joiners stand behind a virama, non-joiners also between letters that join;
`before` is the text in front, last character first -/
def joinersFit (before : List Char) : List Char → Bool
  | [] => true
  | c :: cs =>
    (if c == '\u200c' || c == '\u200d' then
      before.head?.any isVirama
        || (c == '\u200c' && meetsJoining joinsNext before && meetsJoining joinsPrevious cs)
    else true) && joinersFit (c :: before) cs

/-- the longest label that is encoded -/
def maxEncoded : Nat := 1000

def isWellFormed (label : List Char) : Bool :=
  label.all isAscii
    || (!label.head?.any isMark && joinersFit [] label && label.length ≤ maxEncoded)

/-! ## direction -/

/-- a label from left to right: behind its first letter and in front of its last, and there -/
def isInsideLeft (d : Bearing) : Bool := d ≠ .right && d ≠ .arabicNumber

def endsLeft (d : Bearing) : Bool := d = .left || d = .europeanNumber

/-- a label from right to left, likewise -/
def isInsideRight (d : Bearing) : Bool := d ≠ .left

def endsRight (d : Bearing) : Bool :=
  d = .right || d = .europeanNumber || d = .arabicNumber

/-- the directions of a label: a letter first, and then nothing that turns its direction -/
def isDirected (ds : List Bearing) : Bool :=
  let behind := ((ds.drop 1).reverse.dropWhile (· = .mark)).reverse
  match ds.head? with
  | none => true
  | some .left => behind.all isInsideLeft && behind.getLast?.all endsLeft
  | some .right =>
    behind.all isInsideRight && behind.getLast?.all endsRight
      && !(ds.contains .europeanNumber && ds.contains .arabicNumber)
  | some _ => false

def turnsLeft (ds : List Bearing) : Bool := ds.contains .right || ds.contains .arabicNumber

/-! ## labels -/

def marker : List Char := ['x', 'n', '-', '-']

/-- the longest encoding that is read -/
def maxEncoding : Nat := 2000

structure Label where
  text : List Char
  written : List Char

namespace Label

/-- a label that is encoded already: what it encodes is folded and needs the encoding -/
def decode? (encoded : List Char) : Option Label := do
  if maxEncoding < encoded.length || encoded.getLast?.all (· == '-') then none
  let text ← unpunycode? encoded
  if fold? text == some text && !text.any isForbiddenInDomain && !text.contains '.'
      && text.any (!isAscii ·) && punycode text == encoded then
    some ⟨text, marker ++ encoded⟩
  else none

def encode (text : List Char) : Label :=
  ⟨text, if text.all isAscii then text else marker ++ punycode text⟩

def read? (label : List Char) : Option Label :=
  (if marker.isPrefixOf label then decode? (label.drop marker.length)
    else if label.any isForbiddenInDomain then none
    else some (encode label)).filter fun l => isWellFormed l.text

end Label

/-! ## names -/

def asciiDomain? (name : List Char) : Option (List Char) := do
  let labels ← (splitOn '.' (← fold? name)).mapM Label.read?
  let bearings := labels.map fun l => l.text.map bearing
  if bearings.any turnsLeft && !bearings.all isDirected then none
  else some (joinWith '.' (labels.map (·.written)))

end ServerConsole.Url

import ServerConsole.Text.Pieces
import ServerConsole.Url.Percent

/-!
# Paths

A path is a list of segments. A segment of one dot stands for its directory, one of two dots for the
directory above; both may be written with escaped dots. A drive, a letter and a colon or a bar, is
never left by two dots.

* `Walk`         the segments of a path under way;
* `walk`         the segments left once the dots are resolved;
* `parsePath`    the written path of a text;
* `parseFilePath`  the written path of a file, and whether it starts at a drive of this machine.
-/

namespace ServerConsole.Url

open Text

/-! ## breaks -/

/-- line breaks and tabs do not belong to a URL -/
def isBreak (c : Char) : Bool := c == '\t' || c == '\n' || c == '\r'

def withoutBreaks (cs : List Char) : List Char := cs.filter (!isBreak ·)

/-! ## dots -/

/-- a segment with its escaped dots written plainly -/
def plainDots : List Char → List Char
  | '%' :: '2' :: 'e' :: cs | '%' :: '2' :: 'E' :: cs => '.' :: plainDots cs
  | c :: cs => c :: plainDots cs
  | [] => []

def isHere (segment : List Char) : Bool := plainDots segment == ['.']

def isAbove (segment : List Char) : Bool := plainDots segment == ['.', '.']

/-! ## drives -/

def isDriveMark (c : Char) : Bool := c == ':' || c == '|'

def isDrive : List Char → Bool
  | [letter, mark] => letter.isAlpha && isDriveMark mark
  | _ => false

/-- a drive at the end of a segment or in front of a backslash -/
def startsWithDrive : List Char → Bool
  | letter :: mark :: rest =>
    letter.isAlpha && isDriveMark mark && (rest.isEmpty || rest.head? == some '\\')
  | _ => false

def normalDrive (segment : List Char) : List Char := segment.take 1 ++ [':']

/-- a drive and the text that a break sets apart from it -/
def brokenDrive? (segment : List Char) : Option (List Char × List Char) :=
  match segment.dropWhile isBreak with
  | letter :: more =>
    match more.dropWhile isBreak with
    | ':' :: rest =>
      let text := withoutBreaks rest
      if letter.isAlpha && rest.head?.any isBreak && !text.isEmpty then some ([letter, ':'], text)
      else none
    | _ => none
  | [] => none

/-! ## walks -/

/-- the segments done, the last one first, and whether a file's path has come to a drive -/
structure Walk where
  done : List (List Char)
  atDrive : Bool
  deriving DecidableEq

namespace Walk

def enter (w : Walk) (segment : List Char) : Walk := { w with done := segment :: w.done }

/-- the directory above, unless a drive was entered last -/
def climb (w : Walk) : Walk :=
  match w.done with
  | segment :: above => if startsWithDrive segment then w else { w with done := above }
  | [] => w

/-- goes on to a segment; the last one leaves an empty segment when it is dotted -/
def step (w : Walk) (segment : List Char) (last : Bool) : Walk :=
  let leave (w : Walk) := if last then w.enter [] else w
  if isAbove segment then leave w.climb
  else if isHere segment then leave w
  else w.enter segment

/-- the first segment of a file's path, which may be a drive, and what a break sets apart from one -/
def stepRoot (w : Walk) (written : List Char) (last : Bool) : Walk :=
  let segment := percentEncode pathSet (withoutBreaks written)
  match brokenDrive? written with
  | some (drive, text) => (w.enter drive).step (percentEncode pathSet text) last
  | none => if isDrive segment then ⟨[normalDrive segment], true⟩ else w.step segment last

end Walk

/-- goes through the segments still to come, as they are written -/
def walk (file : Bool) (w : Walk) : List (List Char) → Walk
  | [] => w
  | written :: more =>
    let last := more.isEmpty
    let next :=
      if file && w.done.isEmpty then w.stepRoot written last
      else w.step (percentEncode pathSet (withoutBreaks written)) last
    walk file next more

/-! ## paths -/

/-- the text of a path without the slash in front; a backslash counts as a slash where `special` -/
def segmentsOf (special : Bool) (cs : List Char) : List (List Char) :=
  splitOn '/' (if special then cs.map fun c => if c == '\\' then '/' else c else cs)

def parsePath (special : Bool) (cs : List Char) : List Char :=
  '/' :: joinWith '/' (walk false ⟨[], false⟩ (segmentsOf special cs)).done.reverse

/-- a file's path starts with no empty segment -/
def dropEmpty (segments : List (List Char)) : List (List Char) :=
  match segments.dropWhile List.isEmpty with
  | [] => [[]]
  | rest => rest

/-- behind an authority that names this machine, `behind`, the path has an empty segment in front -/
def parseFilePath (behind : Bool) (cs : List Char) : List Char × Bool :=
  let w := walk true ⟨if behind then [[]] else [], false⟩ (segmentsOf true cs)
  ('/' :: joinWith '/' (dropEmpty w.done.reverse), w.atDrive)

end ServerConsole.Url

import ServerConsole.Unicode.Break

/-!
# Grapheme clusters

A cluster is what a reader takes for one character: a letter with its marks, a Korean syllable, a
pair of regional letters, a conjunct, or several emoji tied together.

* `Context`   what has been read so far, as far as it decides where the next cluster begins;
* `clusters`  a text cut into its clusters; nothing is lost (`flatten_clusters`).
-/

namespace ServerConsole.Text

open Unicode

/-! ## context -/

/-- a pictograph in front, and then the joiner behind it -/
inductive Tie
  | none
  | pictograph
  | tied
  deriving DecidableEq

/-- a consonant in front, and then a linker behind it -/
inductive Conjunct
  | none
  | consonant
  | linked
  deriving DecidableEq

structure Context where
  last : BreakClass
  tie : Tie
  conjunct : Conjunct
  /-- an odd number of regional letters in front -/
  oddRegional : Bool
  deriving DecidableEq

namespace Context

/-- at the start of a text -/
def start : Context := ⟨.control, .none, .none, false⟩

def nextTie (x : Context) (c : Char) (k : BreakClass) : Tie :=
  if isPictograph c then .pictograph
  else match k, x.tie with
    | .extend, .pictograph => .pictograph
    | .joiner, .pictograph => .tied
    | _, _ => .none

def nextConjunct (x : Context) (c : Char) (k : BreakClass) : Conjunct :=
  if isConsonant c then .consonant
  else if isLinker c then if x.conjunct = .none then .none else .linked
  else if (k = .extend && c != '\u200c') || k = .joiner then x.conjunct
  else .none

def next (x : Context) (c : Char) : Context :=
  let k := breakClass c
  { last := k
    tie := x.nextTie c k
    conjunct := x.nextConjunct c k
    oddRegional := k = .regional && !x.oddRegional }

/-- whether two letters belong to one Korean syllable -/
def joinsSyllable : BreakClass → BreakClass → Bool
  | .leading, .leading | .leading, .vowel | .leading, .openSyllable | .leading, .closedSyllable => true
  | .openSyllable, .vowel | .openSyllable, .trailing | .vowel, .vowel | .vowel, .trailing => true
  | .closedSyllable, .trailing | .trailing, .trailing => true
  | _, _ => false

def isControl (k : BreakClass) : Bool := k = .control || k = .carriageReturn || k = .lineFeed

/-- whether a character goes on with the cluster before it -/
def continues (x : Context) (c : Char) : Bool :=
  let k := breakClass c
  if x.last = .carriageReturn && k = .lineFeed then true
  else if isControl x.last || isControl k then false
  else
    k = .extend || k = .joiner || k = .spacing || x.last = .prepended
      || joinsSyllable x.last k
      || (x.conjunct = .linked && isConsonant c)
      || (x.tie = .tied && isPictograph c)
      || (x.oddRegional && k = .regional)

end Context

/-! ## clusters -/

/-- takes one more character in; clusters and their characters are held last first -/
def addChar (done : List (List Char)) (x : Context) (c : Char) : List (List Char) :=
  match done with
  | cluster :: rest => if x.continues c then (c :: cluster) :: rest else [c] :: done
  | [] => [[c]]

def clustersFrom (done : List (List Char)) (x : Context) : List Char → List (List Char)
  | [] => (done.map List.reverse).reverse
  | c :: cs => clustersFrom (addChar done x c) (x.next c) cs

def clusters (cs : List Char) : List (List Char) := clustersFrom [] .start cs

/-! ## nothing is lost -/

theorem flatten_addChar (done : List (List Char)) (x : Context) (c : Char) :
    ((addChar done x c).map List.reverse).reverse.flatten
      = (done.map List.reverse).reverse.flatten ++ [c] := by
  cases done with
  | nil => rfl
  | cons cluster rest =>
    rw [addChar]
    split <;> simp

theorem flatten_clustersFrom (done : List (List Char)) (x : Context) (cs : List Char) :
    (clustersFrom done x cs).flatten = (done.map List.reverse).reverse.flatten ++ cs := by
  induction cs generalizing done x with
  | nil => simp [clustersFrom]
  | cons c cs ih => rw [clustersFrom, ih, flatten_addChar, List.append_assoc, List.singleton_append]

theorem flatten_clusters (cs : List Char) : (clusters cs).flatten = cs := by
  rw [clusters, flatten_clustersFrom]
  rfl

end ServerConsole.Text

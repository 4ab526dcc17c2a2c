import ServerConsole.Text.Hex

/-!
# TOML strings

Four kinds: in double quotes with escapes, in single quotes without; each on one line, or over
several between tripled quotes. A line break at the start of a tripled string does not count, and one
or two quotes may stand in front of the closing ones.

* `readBasic`, `readLiteral`   the rest of a string of one line, and what follows it;
* `readLines`  the rest of a tripled string;
* `readString` any string, from its opening quote.
-/

namespace ServerConsole.Toml

open Text

/-- tabs, and everything that is no control character within ASCII -/
def isTextChar (c : Char) : Bool := c == '\t' || (0x20 ≤ c.val && c.val != 0x7f)

def isLineBlank (c : Char) : Bool := c == ' ' || c == '\t'

/-- the text after a line break at the front, if there is one -/
def lineBreak? : List Char → Option (List Char)
  | '\n' :: cs => some cs
  | '\r' :: '\n' :: cs => some cs
  | _ => none

theorem lineBreak?_length {cs rest : List Char} (h : lineBreak? cs = some rest) :
    rest.length < cs.length := by
  unfold lineBreak? at h
  split at h
  · injection h with h; subst h; simp
  · injection h with h; subst h; simp only [List.length_cons]; omega
  · simp at h

/-! ## escapes -/

/-- a character by its number in hexadecimal digits -/
def numbered? (cs : List Char) : Option Char :=
  (hexNumber? cs).bind fun n => if h : n.isValidChar then some (Char.ofNatAux n h) else none

/-- the character of an escape, after its backslash, and how many characters it takes -/
def escape? (cs : List Char) : Option (Char × Nat) :=
  match cs with
  | 'b' :: _ => some ('\x08', 1)
  | 't' :: _ => some ('\t', 1)
  | 'n' :: _ => some ('\n', 1)
  | 'f' :: _ => some ('\x0c', 1)
  | 'r' :: _ => some ('\r', 1)
  | '"' :: _ => some ('"', 1)
  | '\\' :: _ => some ('\\', 1)
  | 'u' :: r => if 4 ≤ r.length then (numbered? (r.take 4)).map (·, 5) else none
  | 'U' :: r => if 8 ≤ r.length then (numbered? (r.take 8)).map (·, 9) else none
  | _ => none

/-! ## one line -/

/-- up to the closing quote; `done` holds the characters read so far, last first -/
def readBasic (done : List Char) (s : List Char) : Option (String × List Char) :=
  match s with
  | [] => none
  | c :: r =>
    if c = '"' then some (String.ofList done.reverse, r)
    else if c = '\\' then
      match escape? r with
      | some (e, taken) => readBasic (e :: done) (r.drop taken)
      | none => none
    else if isTextChar c then readBasic (c :: done) r
    else none
termination_by s.length
decreasing_by
  · simp only [List.length_cons, List.length_drop]; omega
  · simp

def readLiteral (s : List Char) : Option (String × List Char) :=
  let body := s.takeWhile fun c => isTextChar c && c != '\''
  match s.drop body.length with
  | '\'' :: rest => some (String.ofList body, rest)
  | _ => none

/-! ## several lines -/

/-- a line break after a backslash: all blanks and line breaks up to the next text are dropped -/
def skipFolded : List Char → List Char
  | '\r' :: '\n' :: cs => skipFolded cs
  | c :: cs => if isLineBlank c || c == '\n' then skipFolded cs else c :: cs
  | [] => []

theorem skipFolded_length (cs : List Char) : (skipFolded cs).length ≤ cs.length := by
  induction cs using skipFolded.induct with
  | case1 cs ih =>
    rw [skipFolded]
    simp only [List.length_cons]
    omega
  | case2 c cs hc h ih =>
    rw [skipFolded, if_pos h]
    · simp only [List.length_cons]
      omega
    · exact hc
  | case3 c cs hc h =>
    have hstop : skipFolded (c :: cs) = c :: cs := by
      rw [skipFolded, if_neg h]
      exact hc
    exact Nat.le_of_eq (congrArg List.length hstop)
  | case4 => exact Nat.le_refl _

/-- the text after the rest of a folded line -/
def folded? (cs : List Char) : Option (List Char) :=
  (lineBreak? (cs.dropWhile isLineBlank)).map skipFolded

theorem folded?_length {cs rest : List Char} (h : folded? cs = some rest) :
    rest.length < cs.length := by
  obtain ⟨mid, hmid, rfl⟩ := Option.map_eq_some_iff.1 h
  have hbreak := lineBreak?_length hmid
  have hskip := skipFolded_length mid
  have hdrop := (List.dropWhile_suffix isLineBlank (l := cs)).length_le
  omega

/-- what stands at the closing quotes: up to two quotes more than the three belong to the text -/
def closing? (quote : Char) (s : List Char) : Option (List Char × List Char) :=
  let run := (s.takeWhile (· == quote)).length
  if run < 3 then none
  else
    let extra := min (run - 3) 2
    some (List.replicate extra quote, s.drop (extra + 3))

def readLines (quote : Char) (done : List Char) (s : List Char) : Option (String × List Char) :=
  match s with
  | [] => none
  | c :: r =>
    match closing? quote (c :: r) with
    | some (extra, rest) => some (String.ofList (done.reverse ++ extra), rest)
    | none =>
      if c = '\\' ∧ quote = '"' then
        match h : folded? r with
        | some rest =>
          have := folded?_length h
          readLines quote done rest
        | none =>
          match escape? r with
          | some (e, taken) => readLines quote (e :: done) (r.drop taken)
          | none => none
      else if c = '\n' then readLines quote ('\n' :: done) r
      else if c = '\r' then
        match r with
        | '\n' :: rest => readLines quote ('\n' :: done) rest
        | _ => none
      else if isTextChar c then readLines quote (c :: done) r
      else none
termination_by s.length
decreasing_by
  all_goals simp only [List.length_cons, List.length_drop]
  all_goals omega

/-! ## any string -/

/-- the text after a line break at the front, or the whole -/
def withoutFirstBreak (cs : List Char) : List Char := (lineBreak? cs).getD cs

def readString : List Char → Option (String × List Char)
  | '"' :: '"' :: '"' :: cs => readLines '"' [] (withoutFirstBreak cs)
  | '\'' :: '\'' :: '\'' :: cs => readLines '\'' [] (withoutFirstBreak cs)
  | '"' :: cs => readBasic [] cs
  | '\'' :: cs => readLiteral cs
  | _ => none

end ServerConsole.Toml

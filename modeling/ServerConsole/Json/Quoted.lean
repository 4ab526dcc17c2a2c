import ServerConsole.Json.Value
import ServerConsole.Text.Hex
import ServerConsole.Text.Utf8

/-!
# JSON strings

* `quote`       the written form: short escapes for the quote, the backslash and five control
                characters, `\u00xx` for the other control characters below space, all else as is;
* `readString`  reads the body of a string after its opening quote;
* `skipString`  passes over one without looking at the code points of its escapes.

A `\u` escape in the surrogate range is read only as a high half followed by a low half.
-/

namespace ServerConsole.Json

open Text

/-! ## writing -/

def escapeChar (c : Char) : List Char :=
  if c = '"' then ['\\', '"']
  else if c = '\\' then ['\\', '\\']
  else if c = '\x08' then ['\\', 'b']
  else if c = '\x0c' then ['\\', 'f']
  else if c = '\n' then ['\\', 'n']
  else if c = '\r' then ['\\', 'r']
  else if c = '\t' then ['\\', 't']
  else if c.val < 0x20 then '\\' :: 'u' :: hexDigits 4 c.toNat
  else [c]

def escaped (cs : List Char) : List Char := cs.flatMap escapeChar

theorem escaped_nil : escaped [] = [] := rfl

theorem escaped_cons (c : Char) (cs : List Char) : escaped (c :: cs) = escapeChar c ++ escaped cs :=
  rfl

def quote (s : String) : List Char := '"' :: escaped s.toList ++ ['"']

/-! ## escapes -/

/-- four hexadecimal digits; fewer than four bytes left counts as the end of the text -/
def readHex4 : List Char → Except Fault (Nat × List Char)
  | a :: b :: c :: d :: rest =>
    match hexNumber? [a, b, c, d] with
    | some n => .ok (n, rest)
    | none => .error .malformed
  | s => .error (if byteLength s < 4 then .truncated else .malformed)

theorem readHex4_length {s r : List Char} {n : Nat} (h : readHex4 s = .ok (n, r)) :
    r.length < s.length := by
  match s, h with
  | a :: b :: c :: d :: rest, h =>
    rw [readHex4] at h
    split at h
    · injection h with h
      injection h with _ h
      subst h
      simp only [List.length_cons]
      omega
    · simp at h
  | [], h => simp [readHex4] at h
  | [_], h => simp [readHex4] at h
  | [_, _], h => simp [readHex4] at h
  | [_, _, _], h => simp [readHex4] at h

/-- the low half that has to follow a high half -/
def readLowHalf (high : Nat) (s : List Char) : Except Fault (Char × List Char) :=
  match s with
  | [] | ['\\'] => .error .truncated
  | '\\' :: 'u' :: r =>
    match readHex4 r with
    | .error f => .error f
    | .ok (low, r) =>
      if 0xdc00 ≤ low ∧ low ≤ 0xdfff then
        .ok (Char.ofNat ((high - 0xd800) * 1024 + (low - 0xdc00) + 0x10000), r)
      else .error .malformed
  | _ => .error .malformed

theorem readLowHalf_length {high : Nat} {s r : List Char} {c : Char}
    (h : readLowHalf high s = .ok (c, r)) : r.length < s.length := by
  unfold readLowHalf at h
  split at h
  · simp at h
  · simp at h
  · split at h
    · simp at h
    · next hr =>
      have := readHex4_length hr
      split at h
      · injection h with h
        injection h with _ h
        subst h
        simp only [List.length_cons]
        omega
      · simp at h
  · simp at h

/-- the character of an escape, after its backslash -/
def readEscape (s : List Char) : Except Fault (Char × List Char) :=
  match s with
  | [] => .error .truncated
  | '"' :: r => .ok ('"', r)
  | '\\' :: r => .ok ('\\', r)
  | '/' :: r => .ok ('/', r)
  | 'b' :: r => .ok ('\x08', r)
  | 'f' :: r => .ok ('\x0c', r)
  | 'n' :: r => .ok ('\n', r)
  | 'r' :: r => .ok ('\r', r)
  | 't' :: r => .ok ('\t', r)
  | 'u' :: r =>
    match readHex4 r with
    | .error f => .error f
    | .ok (n, r) =>
      if 0xdc00 ≤ n ∧ n ≤ 0xdfff then .error .malformed
      else if 0xd800 ≤ n ∧ n ≤ 0xdbff then readLowHalf n r
      else .ok (Char.ofNat n, r)
  | _ => .error .malformed

theorem readEscape_length {s r : List Char} {c : Char} (h : readEscape s = .ok (c, r)) :
    r.length < s.length := by
  unfold readEscape at h
  split at h
  case h_10 =>
    split at h
    · simp at h
    · next hr =>
      have := readHex4_length hr
      split at h
      · simp at h
      · split at h
        · have := readLowHalf_length h
          simp only [List.length_cons]
          omega
        · injection h with h
          injection h with _ h
          subst h
          simp only [List.length_cons]
          omega
  all_goals
    first
    | (simp at h; done)
    | (injection h with h; injection h with _ h; subst h; simp)

/-! ## bodies -/

/-- reads up to the closing quote; `done` holds the characters read so far, last first -/
def readBody (done : List Char) (s : List Char) : Except Fault (String × List Char) :=
  match s with
  | [] => .error .truncated
  | c :: r =>
    if c = '"' then .ok (String.ofList done.reverse, r)
    else if c = '\\' then
      match h : readEscape r with
      | .error f => .error f
      | .ok (e, r') =>
        have := readEscape_length h
        readBody (e :: done) r'
    else if c.val < 0x20 then .error .malformed
    else readBody (c :: done) r
termination_by s.length
decreasing_by
  · simp only [List.length_cons]; omega
  · simp

def readString (s : List Char) : Except Fault (String × List Char) := readBody [] s

/-- passes one escape, after its backslash -/
def skipEscape (s : List Char) : Except Fault (List Char) :=
  match s with
  | [] => .error .truncated
  | c :: r =>
    if c = 'u' then (readHex4 r).map (·.2)
    else if ['"', '\\', '/', 'b', 'f', 'n', 'r', 't'].contains c then .ok r
    else .error .malformed

theorem skipEscape_length {s r : List Char} (h : skipEscape s = .ok r) : r.length < s.length := by
  match s, h with
  | [], h => simp [skipEscape] at h
  | c :: cs, h =>
    rw [skipEscape] at h
    split at h
    · match hr : readHex4 cs, h with
      | .ok (n, q), h =>
        have := readHex4_length hr
        simp [Except.map] at h
        subst h
        simp only [List.length_cons]
        omega
    · split at h
      · injection h with h
        subst h
        simp
      · simp at h

def skipString (s : List Char) : Except Fault (List Char) :=
  match s with
  | [] => .error .truncated
  | c :: r =>
    if c = '"' then .ok r
    else if c = '\\' then
      match h : skipEscape r with
      | .error f => .error f
      | .ok r' =>
        have := skipEscape_length h
        skipString r'
    else if c.val < 0x20 then .error .malformed
    else skipString r
termination_by s.length
decreasing_by
  · simp only [List.length_cons]; omega
  · simp

end ServerConsole.Json

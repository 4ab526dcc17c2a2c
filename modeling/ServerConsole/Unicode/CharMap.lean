import ServerConsole.Text.Hex
import ServerConsole.Text.Pieces

/-!
# Maps on characters

A property of characters is a table of spans: consecutive code points with one value. Tables are
written as text, spans apart by blanks and line ends: `300-36f=e` gives the value `e` to the code points from
`300` to `36f`, a single code point needs no dash and a plain set no value.

* `CharMap.get?`     the value of a character, found by halving the table;
* `CharMap.ofText`   the map of a table, whose spans are in ascending order;
* `CharSet`          a map without values.
-/

namespace ServerConsole.Unicode

open Text

structure Span (α : Type) where
  first : Nat
  last : Nat
  value : α

def Span.covers {α : Type} (s : Span α) (n : Nat) : Bool := s.first ≤ n && n ≤ s.last

/-- spans in ascending order, none of which overlap -/
structure CharMap (α : Type) where
  spans : Array (Span α)

namespace CharMap

variable {α : Type}

/-! ## looking up -/

/-- whether the span at a position starts at `n` or before -/
def startsBy (m : CharMap α) (position n : Nat) : Bool :=
  match m.spans[position]? with
  | some span => span.first ≤ n
  | none => false

/-- the last position from `low` on and before `high` whose span starts at `n` or before, `low` if
there is none -/
def position (m : CharMap α) (n low high : Nat) : Nat :=
  if low + 1 < high then
    let middle := (low + high) / 2
    if m.startsBy middle n then m.position n middle high else m.position n low middle
  else low
termination_by high - low

def span? (m : CharMap α) (n : Nat) : Option (Span α) :=
  (m.spans[m.position n 0 m.spans.size]?).filter (·.covers n)

def get? (m : CharMap α) (c : Char) : Option α := (m.span? c.toNat).map (·.value)

def contains (m : CharMap α) (c : Char) : Bool := (m.span? c.toNat).isSome

/-- a span that is found belongs to the table and covers the code point -/
theorem span?_eq_some {m : CharMap α} {n : Nat} {s : Span α} (h : m.span? n = some s) :
    s ∈ m.spans ∧ s.covers n = true := by
  rw [span?, Option.filter_eq_some_iff] at h
  exact ⟨Array.mem_of_getElem? h.1, h.2⟩

/-! ## reading -/

/-- a span as it is written; `value?` reads the part behind the equals sign -/
def readSpan? (value? : List Char → Option α) (cs : List Char) : Option (Span α) := do
  let (range, value) := cut '=' cs
  let (first, last) := cut '-' range
  let first ← hexNumber? first
  let last ← match last with
    | none => some first
    | some cs => hexNumber? cs
  return ⟨first, last, ← value? (value.getD [])⟩

/-- the pieces of a table, apart by blanks and line ends -/
def items (text : String) : List (List Char) :=
  (splitOn ' ' (text.toList.map fun c => if c == '\n' then ' ' else c)).filter (!·.isEmpty)

def ofText (value? : List Char → Option α) (text : String) : CharMap α :=
  ⟨((items text).filterMap (readSpan? value?)).toArray⟩

end CharMap

abbrev CharSet := CharMap Unit

def CharSet.ofText (text : String) : CharSet := CharMap.ofText (fun _ => some ()) text

end ServerConsole.Unicode

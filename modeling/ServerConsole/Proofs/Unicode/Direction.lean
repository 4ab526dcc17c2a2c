import ServerConsole.Unicode.Direction

/-!
# The direction of ASCII

The tables of the scripts that are written to the left start behind ASCII, so that a text within ASCII has
nothing that turns its direction.

* `CharMap.forall_spans`   what holds of every span of a table, shown of the table's text;
* `bearing_ascii`          the directions that ASCII characters do not have.
-/

namespace ServerConsole.Unicode

open Text

/-! ## tables -/

/-- what holds of every item of a table's text holds of every span -/
theorem CharMap.forall_spans {α : Type} {value? : List Char → Option α} {p : Span α → Bool}
    {cs : List Char}
    (h : ((splitOn ' ' (cs.map fun c => if c == '\n' then ' ' else c)).all fun item =>
      item.isEmpty || (readSpan? value? item).all p) = true) :
    ∀ s ∈ (ofText value? (String.ofList cs)).spans, p s = true := by
  intro s hs
  rw [ofText, items, String.toList_ofList] at hs
  obtain ⟨item, hi, hr⟩ := List.mem_filterMap.mp (List.mem_toArray.mp hs)
  obtain ⟨hm, hn⟩ := List.mem_filter.mp hi
  have ha := List.all_eq_true.mp h item hm
  have he : item.isEmpty = false := by simpa using hn
  rw [hr, he] at ha
  exact ha

set_option maxRecDepth 20000 in
theorem rightToLeft_high : ∀ s ∈ rightToLeft.spans, decide (0x80 ≤ s.first) = true :=
  CharMap.forall_spans (by decide +kernel)

theorem arabicNumbers_high : ∀ s ∈ arabicNumbers.spans, decide (0x80 ≤ s.first) = true :=
  CharMap.forall_spans (by decide +kernel)

/-- a set of characters outside ASCII -/
theorem contains_eq_false {m : CharSet} (hm : ∀ s ∈ m.spans, decide (0x80 ≤ s.first) = true) {c : Char}
    (hc : c.toNat < 0x80) : m.contains c = false := by
  rw [CharMap.contains]
  cases h : m.span? c.toNat with
  | none => rfl
  | some s =>
    obtain ⟨hs, hcover⟩ := CharMap.span?_eq_some h
    have hf := of_decide_eq_true (hm s hs)
    simp only [Span.covers, Bool.and_eq_true, decide_eq_true_eq] at hcover
    omega

/-- no ASCII character is written to the left -/
theorem bearing_ascii {c : Char} (hc : c.toNat < 0x80) :
    bearing c ≠ .right ∧ bearing c ≠ .arabicNumber := by
  unfold bearing
  rw [contains_eq_false rightToLeft_high hc, contains_eq_false arabicNumbers_high hc]
  simp only [Bool.false_eq_true, if_false]
  repeat' split
  all_goals decide

end ServerConsole.Unicode

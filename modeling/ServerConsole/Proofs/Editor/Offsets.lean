import ServerConsole.Editor
import ServerConsole.Proofs.Text.Utf8

/-!
# Offsets between characters

* `splitAtByte?_eq_some_iff`  a line is cut in two exactly at the length of one of its first parts;
* `isValid_iff`               which are the positions of the line's UTF-8 form between two characters;
* `isSome_insertAtByte?_iff`, `isSome_removeAtByte?_iff`  where a character can be put in or taken out;
* `insertAtByte?_middle`, `removeAtByte?_middle`  what that makes of the line, in its two parts.
-/

namespace ServerConsole

open Text

/-! ## cuts -/

theorem splitAtByte?_eq_some_iff (n : Nat) (cs a b : List Char) :
    splitAtByte? n cs = some (a, b) ↔ cs = a ++ b ∧ byteLength a = n := by
  induction n, cs using splitAtByte?.induct generalizing a b with
  | case1 cs =>
    rw [splitAtByte?, byteLength_eq_zero_iff]
    constructor
    · rintro h
      cases h
      exact ⟨rfl, rfl⟩
    · rintro ⟨rfl, rfl⟩
      rfl
  | case2 n =>
    rw [splitAtByte?]
    refine ⟨nofun, ?_⟩
    rintro ⟨h, hn⟩
    rw [(List.append_eq_nil_iff.mp h.symm).1, byteLength_nil] at hn
    omega
  | case3 n c cs hc ih =>
    rw [splitAtByte?, if_pos hc, Option.map_eq_some_iff]
    constructor
    · rintro ⟨⟨a', b'⟩, h, he⟩
      obtain ⟨rfl, hn⟩ := (ih a' b').mp h
      cases he
      refine ⟨rfl, ?_⟩
      rw [byteLength_cons]
      omega
    · rintro ⟨h, hn⟩
      cases a with
      | nil =>
        rw [byteLength_nil] at hn
        omega
      | cons d a =>
        obtain ⟨rfl, rfl⟩ := List.cons.inj h
        rw [byteLength_cons] at hn
        exact ⟨(a, b), (ih a b).mpr ⟨rfl, by omega⟩, rfl⟩
  | case4 n c cs hc =>
    rw [splitAtByte?, if_neg hc]
    refine ⟨nofun, ?_⟩
    rintro ⟨h, hn⟩
    cases a with
    | nil =>
      rw [byteLength_nil] at hn
      omega
    | cons d a =>
      obtain ⟨rfl, -⟩ := List.cons.inj h
      rw [byteLength_cons] at hn
      omega

theorem splitAtByte?_append (a b : List Char) : splitAtByte? (byteLength a) (a ++ b) = some (a, b) :=
  (splitAtByte?_eq_some_iff _ _ _ _).mpr ⟨rfl, rfl⟩

theorem isValid_iff (n : Nat) (cs : List Char) :
    (⟨n⟩ : String.Pos.Raw).IsValid (String.ofList cs) ↔ ∃ a b, cs = a ++ b ∧ byteLength a = n := by
  rw [String.Pos.Raw.isValid_ofList]
  constructor
  · rintro ⟨i, hi⟩
    refine ⟨cs.take i, cs.drop i, (List.take_append_drop i cs).symm, ?_⟩
    rw [← utf8ByteSize_ofList, ← hi]
  · rintro ⟨a, b, rfl, rfl⟩
    refine ⟨a.length, ?_⟩
    rw [List.take_left, utf8ByteSize_ofList]

/-! ## where a character can be put in or taken out -/

theorem isSome_insertAtByte?_iff (cs : List Char) (n : Nat) (c : Char) :
    (insertAtByte? cs n c).isSome = true ↔ (⟨n⟩ : String.Pos.Raw).IsValid (String.ofList cs) := by
  rw [insertAtByte?, Option.isSome_map, isValid_iff, Option.isSome_iff_exists]
  simp only [Prod.exists, splitAtByte?_eq_some_iff]

theorem isSome_removeAtByte?_iff (cs : List Char) (n : Nat) :
    (removeAtByte? cs n).isSome = true ↔
      (⟨n⟩ : String.Pos.Raw).IsValid (String.ofList cs) ∧ n < (String.ofList cs).utf8ByteSize := by
  rw [isValid_iff, utf8ByteSize_ofList, removeAtByte?]
  constructor
  · intro h
    cases hs : splitAtByte? n cs with
    | none =>
      rw [hs] at h
      cases h
    | some r =>
      obtain ⟨a, b⟩ := r
      rw [hs] at h
      obtain ⟨rfl, rfl⟩ := (splitAtByte?_eq_some_iff _ _ _ _).mp hs
      refine ⟨⟨a, b, rfl, rfl⟩, ?_⟩
      cases b with
      | nil => cases h
      | cons c b =>
        have hc : 0 < c.utf8Size := c.utf8Size_pos
        rw [byteLength_append, byteLength_cons]
        omega
  · rintro ⟨⟨a, b, rfl, rfl⟩, hn⟩
    rw [splitAtByte?_append]
    cases b with
    | nil =>
      rw [List.append_nil] at hn
      omega
    | cons c b => rfl

/-! ## in the two parts of a line -/

theorem byteIndex_append (a b : List Char) : byteIndex (a ++ b) a.length = byteLength a := by
  rw [byteIndex, List.take_left]

theorem insertAtByte?_middle (a b : List Char) (c : Char) :
    insertAtByte? (a ++ b) (byteIndex (a ++ b) a.length) c = some (a ++ c :: b) := by
  rw [byteIndex_append, insertAtByte?, splitAtByte?_append]
  rfl

theorem removeAtByte?_middle (a b : List Char) (c : Char) :
    removeAtByte? (a ++ c :: b) (byteIndex (a ++ c :: b) a.length) = some (a ++ b) := by
  rw [byteIndex_append, removeAtByte?, splitAtByte?_append]

end ServerConsole

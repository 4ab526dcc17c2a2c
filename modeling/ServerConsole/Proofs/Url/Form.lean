import ServerConsole.Proofs.Url.Percent
import ServerConsole.Url.Form

/-!
# Form encoding there and back

* `mem_formEncode`         no character with a meaning in a query is left in a name or a value;
* `formDecode_formEncode`  a name or a value is read as it was written;
* `formPairs_joinWith`     so is a list of pairs, whatever its names and values hold.
-/

namespace ServerConsole.Url

open Text

/-! ## what is written -/

/-- characters that stay, spaces, and escapes -/
theorem mem_formEncode {cs : List Char} {d : Char} (h : d ∈ formEncode cs) :
    isFormPlain d = true ∨ d = '+' ∨ d ∈ escapeChars := by
  obtain ⟨c, -, hd⟩ := List.mem_flatMap.mp h
  unfold formChar at hd
  split at hd
  · exact .inr (.inl (List.mem_singleton.mp hd))
  · rcases mem_encodeChar hd with ⟨rfl, -, hp⟩ | hd
    · rw [Bool.not_eq_false'] at hp
      exact .inl hp
    · exact .inr (.inr hd)

theorem not_mem_formEncode {c : Char} (hp : isFormPlain c = false) (hc : c ≠ '+')
    (he : c ∉ escapeChars) (cs : List Char) : c ∉ formEncode cs := by
  intro h
  rcases mem_formEncode h with h | h | h
  · rw [hp] at h
    cases h
  · exact hc h
  · exact he h

theorem not_mem_formPair {c : Char} (hp : isFormPlain c = false) (hc : c ≠ '+')
    (he : c ∉ escapeChars) (heq : c ≠ '=') (name value : List Char) : c ∉ formPair name value := by
  rw [formPair, List.mem_append, List.mem_cons]
  rintro (h | h | h)
  · exact not_mem_formEncode hp hc he name h
  · exact heq h
  · exact not_mem_formEncode hp hc he value h

/-! ## names and values -/

/-- a plus sign is read as a space -/
def unplus (c : Char) : Char := if c == '+' then ' ' else c

theorem unplus_of_ne {c : Char} (h : c ≠ '+') : unplus c = c := by
  rw [unplus, beq_false_of_ne h]
  rfl

theorem map_unplus {cs : List Char} (h : '+' ∉ cs) : cs.map unplus = cs := by
  rw [List.map_congr_left fun c hc => unplus_of_ne fun he => h (he ▸ hc)]
  exact List.map_id cs

/-- a character is read as its bytes, whichever way it was written -/
theorem percentDecode_formChar (c : Char) (cs : List Char) :
    percentDecode (encode ((formChar c).map unplus ++ cs)) =
      String.utf8EncodeChar c ++ percentDecode (encode cs) := by
  unfold formChar
  split
  · rename_i hc
    rw [beq_iff_eq] at hc
    rw [hc]
    exact percentDecode_encode_cons (by decide) (by decide) cs
  unfold encodeChar
  split
  · rename_i hc
    rw [Bool.and_eq_true, Bool.not_not] at hc
    have hplus : c ≠ '+' := by
      rintro rfl
      exact absurd hc.2 (by decide)
    have hpercent : c ≠ '%' := by
      rintro rfl
      exact absurd hc.2 (by decide)
    rw [List.map_singleton, unplus_of_ne hplus, List.singleton_append,
      percentDecode_encode_cons hc.1 hpercent, utf8EncodeChar_of_isAscii hc.1]
    rfl
  · have hplus : '+' ∉ (String.utf8EncodeChar c).flatMap escape := by
      intro h
      obtain ⟨b, -, hb⟩ := List.mem_flatMap.mp h
      exact absurd (mem_escape hb) (by decide)
    rw [map_unplus hplus, percentDecode_flatMap_escape]

theorem percentDecode_formEncode (cs : List Char) :
    percentDecode (encode ((formEncode cs).map unplus)) = encode cs := by
  induction cs with
  | nil => rfl
  | cons c cs ih =>
    rw [formEncode, List.flatMap_cons, List.map_append, percentDecode_formChar]
    exact congrArg (String.utf8EncodeChar c ++ ·) ih

theorem formDecode_formEncode (cs : List Char) : formDecode (formEncode cs) = cs := by
  show decodeLossy (percentDecode (encode ((formEncode cs).map unplus))) = cs
  rw [percentDecode_formEncode, decodeLossy_encode]

/-! ## pairs -/

theorem formPairOf_formPair (name value : List Char) :
    formPairOf (formPair name value) = (name, value) := by
  have h : '=' ∉ formEncode name := not_mem_formEncode (by decide) (by decide) (by decide) name
  rw [formPairOf, formPair, takeWhile_ne_of_not_mem h, dropWhile_ne_of_not_mem h]
  show (formDecode (formEncode name), formDecode (formEncode value)) = _
  rw [formDecode_formEncode, formDecode_formEncode]

theorem isEmpty_formPair (name value : List Char) : (formPair name value).isEmpty = false := by
  unfold formPair
  cases formEncode name <;> rfl

theorem map_formPairOf (pairs : List (List Char × List Char)) :
    ((pairs.map fun (name, value) => formPair name value).filter (!·.isEmpty)).map formPairOf =
      pairs := by
  induction pairs with
  | nil => rfl
  | cons pair pairs ih =>
    obtain ⟨name, value⟩ := pair
    rw [List.map_cons, List.filter_cons_of_pos, List.map_cons, ih, formPairOf_formPair]
    rw [isEmpty_formPair]
    rfl

/-- pairs are read as they were written: no name or value leaks into another one -/
theorem formPairs_joinWith (pairs : List (List Char × List Char)) :
    formPairs (joinWith '&' (pairs.map fun (name, value) => formPair name value)) = pairs := by
  cases pairs with
  | nil => rfl
  | cons pair pairs =>
    rw [formPairs, splitOn_joinWith (by simp), map_formPairOf]
    intro piece hp
    obtain ⟨⟨name, value⟩, -, rfl⟩ := List.mem_map.mp hp
    exact not_mem_formPair (by decide) (by decide) (by decide) (by decide) name value

end ServerConsole.Url

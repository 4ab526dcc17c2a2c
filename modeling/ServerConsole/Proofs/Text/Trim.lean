import Mathlib.Data.List.DropRight
import ServerConsole.Text.Blank

/-!
# What trimming leaves

* `Trimmed`              no blank at the front of a text and none at its end;
* `trimmed_trim`         what is left of any text is trimmed;
* `Trimmed.isBlankText_eq`  a trimmed text of blanks is empty;
* `trim_eq_empty_iff`    nothing is left exactly of a text of blanks.
-/

namespace ServerConsole.Text

structure Trimmed (s : String) : Prop where
  front : ∀ c ∈ s.toList.head?, isBlank c = false
  back : ∀ c ∈ s.toList.getLast?, isBlank c = false

/-! ## lists of characters -/

theorem dropTail_eq_rdropWhile (p : Char → Bool) (cs : List Char) : dropTail p cs = cs.rdropWhile p :=
  rfl

/-- what is dropped is a tail of such characters -/
theorem exists_dropTail_append (p : Char → Bool) (cs : List Char) :
    ∃ tail, cs = dropTail p cs ++ tail ∧ ∀ c ∈ tail, p c = true := by
  refine ⟨(cs.reverse.takeWhile p).reverse, ?_, fun c hc => ?_⟩
  · rw [dropTail, ← List.reverse_append, List.takeWhile_append_dropWhile, List.reverse_reverse]
  · exact List.mem_takeWhile_imp (List.mem_reverse.mp hc)

theorem getLast_dropTail {p : Char → Bool} {cs : List Char} {c : Char}
    (h : c ∈ (dropTail p cs).getLast?) : p c = false := by
  have hn : cs.rdropWhile p ≠ [] := by
    intro hn
    rw [dropTail_eq_rdropWhile, hn] at h
    cases h
  have hl : ¬ p ((cs.rdropWhile p).getLast hn) = true := List.rdropWhile_last_not p cs hn
  rw [dropTail_eq_rdropWhile, List.getLast?_eq_some_getLast hn] at h
  rw [← Option.some.inj h]
  exact eq_false_of_ne_true hl

/-- all of a tail is dropped, and nothing more where the rest ends with a character that stays -/
theorem dropTail_append {p : Char → Bool} {front tail : List Char} (ht : ∀ c ∈ tail, p c = true)
    (hf : ∀ c ∈ front.getLast?, p c = false) : dropTail p (front ++ tail) = front := by
  have hr : front.reverse.dropWhile p = front.reverse := by
    cases h : front.reverse with
    | nil => rfl
    | cons c cs =>
      have hc : c ∈ front.getLast? := by rw [← List.head?_reverse, h]; rfl
      exact List.dropWhile_cons_of_neg (by simp [hf c hc])
  rw [dropTail, List.reverse_append, List.dropWhile_append_of_pos (by simpa using ht), hr,
    List.reverse_reverse]

/-- nothing in front of a character that stays is dropped -/
theorem dropTail_append_cons {p : Char → Bool} {c : Char} (h : p c = false) (front rest : List Char) :
    dropTail p (front ++ c :: rest) = front ++ c :: dropTail p rest := by
  have hr : (front ++ c :: rest).reverse = rest.reverse ++ c :: front.reverse := by simp
  rw [dropTail, hr, List.dropWhile_append, dropTail]
  split
  · next he =>
    rw [List.dropWhile_cons_of_neg (by simp [h]), List.isEmpty_iff.mp he]
    simp
  · simp

theorem dropWhile_eq_nil_of_dropTail {p : Char → Bool} {cs : List Char}
    (h : dropTail p (cs.dropWhile p) = []) : cs.dropWhile p = [] := by
  rw [dropTail_eq_rdropWhile, List.rdropWhile_eq_nil_iff] at h
  by_contra hn
  -- the first character that is left is no blank, though all are
  have h1 : p ((cs.dropWhile p).head hn) = true := h _ (List.head_mem hn)
  rw [List.head_dropWhile_not p hn] at h1
  cases h1

theorem trimChars_eq_nil_iff (cs : List Char) : trimChars cs = [] ↔ cs.all isBlank = true := by
  constructor
  · intro h
    have hd := dropWhile_eq_nil_of_dropTail h
    rw [List.dropWhile_eq_nil_iff] at hd
    exact List.all_eq_true.mpr hd
  · intro h
    have hd : cs.dropWhile isBlank = [] := List.dropWhile_eq_nil_iff.mpr (List.all_eq_true.mp h)
    unfold trimChars
    rw [hd, dropTail_nil]

theorem front_trimChars {cs : List Char} {c : Char} (h : c ∈ (trimChars cs).head?) :
    isBlank c = false := by
  have hp : trimChars cs <+: cs.dropWhile isBlank := List.rdropWhile_prefix _ _
  have hc : c ∈ (cs.dropWhile isBlank).head? := by
    obtain ⟨rest, hr⟩ := hp
    rw [← hr, List.head?_append, Option.mem_def.mp h]
    rfl
  have hn : cs.dropWhile isBlank ≠ [] := by
    rintro hn
    rw [hn] at hc
    cases hc
  have hh := List.head_dropWhile_not isBlank hn
  rw [List.head?_eq_some_head hn] at hc
  rw [← Option.some.inj hc]
  exact hh

theorem back_trimChars {cs : List Char} {c : Char} (h : c ∈ (trimChars cs).getLast?) :
    isBlank c = false :=
  getLast_dropTail h

/-! ## texts -/

theorem trimmed_trim (s : String) : Trimmed (trim s) where
  front := by
    rw [toList_trim]
    exact fun c => front_trimChars
  back := by
    rw [toList_trim]
    exact fun c => back_trimChars

theorem isBlankText_append_left {a : String} (h : isBlankText a = false) (b : String) :
    isBlankText (a ++ b) = false := by
  unfold isBlankText at h ⊢
  rw [String.toList_append, List.all_append, h, Bool.false_and]

/-- a trimmed text of blanks is empty -/
theorem Trimmed.isBlankText_eq {s : String} (h : Trimmed s) : isBlankText s = s.isEmpty := by
  cases hs : s.toList with
  | nil =>
    rw [String.toList_eq_nil_iff.mp hs]
    rfl
  | cons c cs =>
    have hc : isBlank c = false := h.front c (by rw [hs]; rfl)
    have he : s ≠ "" := by
      rintro rfl
      cases hs
    have hb : isBlankText s = false := by simp [isBlankText, hs, hc]
    rw [hb]
    exact (eq_false_of_ne_true fun ht => he (String.isEmpty_iff.mp ht)).symm

theorem trim_eq_empty_iff (s : String) : trim s = "" ↔ isBlankText s = true := by
  rw [← String.toList_inj, toList_trim]
  exact trimChars_eq_nil_iff s.toList

theorem isEmpty_trim (s : String) : (trim s).isEmpty = isBlankText s := by
  rw [Bool.eq_iff_iff, String.isEmpty_iff, trim_eq_empty_iff]

end ServerConsole.Text

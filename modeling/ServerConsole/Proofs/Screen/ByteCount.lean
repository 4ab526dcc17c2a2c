import Mathlib.Algebra.Group.Nat.Defs
import ServerConsole.Screen.ByteCount

/-!
# Byte counts in their unit

The unit of a count is chosen before the count is rounded, so that just below the next unit the number shown
can be as large as that unit.

* `Nearest`            a quotient rounded to the nearest natural, a half to the even one;
* `tenthsShown`, `unitShown`  the number and the unit that a text shows;
* `InUnit`             a text that shows a count as it should;
* `unitOf_bounds`      the unit chosen is the largest one that the count fills;
* `nearest_roundHalfEven`  rounding gives the nearest number;
* `in_unit_iff`        which counts below the largest are shown as they should.
-/

namespace ServerConsole.Screen

open Text

/-! ## definitions -/

/-- the natural nearest to a quotient; of two that are equally near the even one -/
structure Nearest (num den t : Nat) : Prop where
  above : 2 * num ≤ (2 * t + 1) * den
  below : 2 * t * den ≤ 2 * num + den
  even : 2 * num = (2 * t + 1) * den ∨ 2 * t * den = 2 * num + den → t % 2 = 0

/-- the number in front of the blank, in tenths -/
def tenthsShown (text : String) : Nat :=
  ofDigits ((text.toList.takeWhile (· != ' ')).filter (· != '.'))

/-- what stands behind the blank -/
def unitShown (text : String) : String := String.ofList ((text.toList.dropWhile (· != ' ')).drop 1)

/-- the number shown is at least 1.0 and less than 1024.0, and it is the count in the unit shown, rounded to
tenths -/
def InUnit (n : Nat) (text : String) : Prop :=
  ∃ unit, units[unit]? = some (unitShown text) ∧
    Nearest (10 * n) (unitSize unit) (tenthsShown text) ∧
    10 ≤ tenthsShown text ∧ tenthsShown text < 10240

/-! ## rounding -/

theorem nearest_roundHalfEven (num : Nat) {den : Nat} (h : 0 < den) :
    Nearest num den (roundHalfEven num den) := by
  have hq : num / den * den + num % den = num := Nat.div_add_mod' num den
  have hr : num % den < den := Nat.mod_lt num h
  have h0 : 2 * (num / den) * den = 2 * (num / den * den) := Nat.mul_assoc ..
  have h1 : (2 * (num / den) + 1) * den = 2 * (num / den * den) + den := by
    rw [Nat.add_mul, h0, Nat.one_mul]
  have h2 : 2 * (num / den + 1) * den = 2 * (num / den * den) + 2 * den := by
    rw [Nat.mul_add, Nat.add_mul, h0]
  have h3 : (2 * (num / den + 1) + 1) * den = 2 * (num / den * den) + 3 * den := by
    rw [Nat.add_mul, h2]
    omega
  unfold roundHalfEven
  dsimp only
  split
  · constructor <;> omega
  split
  · constructor <;> omega
  · rcases Nat.mod_two_eq_zero_or_one (num / den) with he | he
    · rw [he, Nat.add_zero]
      constructor <;> omega
    · rw [he]
      constructor <;> omega

section
variable {num den t b : Nat}

theorem Nearest.le (h : Nearest num den t) (hd : 0 < den) (hb : num ≤ b * den) : t ≤ b := by
  refine Nat.not_lt.mp fun hn => ?_
  have hm : 2 * (b + 1) * den ≤ 2 * t * den := Nat.mul_le_mul_right _ (by omega)
  have he : 2 * (b + 1) * den = 2 * (b * den) + 2 * den := by
    rw [Nat.mul_add, Nat.add_mul, Nat.mul_assoc]
  have := h.below
  omega

theorem Nearest.ge (h : Nearest num den t) (hd : 0 < den) (hb : b * den ≤ num) : b ≤ t := by
  refine Nat.not_lt.mp fun hn => ?_
  have hm : (2 * t + 1) * den + den ≤ 2 * b * den := by
    rw [← Nat.succ_mul]
    exact Nat.mul_le_mul_right _ (by omega)
  have he : 2 * b * den = 2 * (b * den) := Nat.mul_assoc ..
  have := h.above
  omega

/-- halfway to an even number is not below it any more -/
theorem Nearest.lt_iff (h : Nearest num den t) (hd : 0 < den) (hb : b % 2 = 1) :
    t < b + 1 ↔ 2 * num < (2 * b + 1) * den := by
  constructor
  · intro ht
    have hm : (2 * t + 1) * den ≤ (2 * b + 1) * den := Nat.mul_le_mul_right _ (by omega)
    refine Nat.lt_of_le_of_ne (Nat.le_trans h.above hm) fun he => ?_
    have hle : (2 * b + 1) * den ≤ (2 * t + 1) * den := he ▸ h.above
    have hbt := Nat.le_of_mul_le_mul_right hle hd
    obtain rfl : t = b := by omega
    have := h.even (.inl he)
    omega
  · intro hn
    refine Nat.not_le.mp fun ht => ?_
    have hm : 2 * (b + 1) * den ≤ 2 * t * den := Nat.mul_le_mul_right _ (by omega)
    have he : 2 * (b + 1) * den = (2 * b + 1) * den + den := Nat.succ_mul ..
    have := h.below
    omega

end

/-! ## texts -/

theorem digits_of_lt {n : Nat} (h : n < 10) : digits n = [digitChar n] := by rw [digits, if_pos h]

theorem pointed_one (t : Nat) : pointed 1 t = digits (t / 10) ++ ['.', digitChar t] := by
  have hd : digits (t % 10) = [digitChar t] := by
    rw [digits_of_lt (Nat.mod_lt t (by decide)), digitChar, Nat.mod_mod]
    rfl
  show digits (t / 10) ++ '.' :: (List.replicate (1 - (digits (t % 10)).length) '0' ++ digits (t % 10)) = _
  rw [hd]
  rfl

theorem ne_of_isDigit {c d : Char} (h : isDigit c = true) (hd : isDigit d = false) : (c != d) = true := by
  rw [bne_iff_ne]
  rintro rfl
  rw [h] at hd
  cases hd

theorem ne_of_mem_digits {n : Nat} {c d : Char} (hc : c ∈ digits n) (hd : isDigit d = false) :
    (c != d) = true :=
  ne_of_isDigit (List.all_eq_true.mp (all_isDigit_digits n) c hc) hd

theorem ofDigits_filter_pointed (t : Nat) : ofDigits ((pointed 1 t).filter (· != '.')) = t := by
  have hf : (digits (t / 10)).filter (· != '.') = digits (t / 10) :=
    List.filter_eq_self.mpr fun c hc => ne_of_mem_digits hc rfl
  have hl : ['.', digitChar t].filter (· != '.') = [digitChar t] := by
    have hd : (digitChar t != '.') = true := ne_of_isDigit (isDigit_digitChar t) rfl
    rw [List.filter_cons_of_neg (by decide), List.filter_cons_of_pos (p := (· != '.')) hd]
    rfl
  rw [pointed_one, List.filter_append, hf, hl, ofDigits_append_singleton, ofDigits_digits,
    digitValue_digitChar]
  omega

/-- the two parts of what is shown of a count -/
theorem shown (t : Nat) (name : String) :
    let text := String.ofList (pointed 1 t) ++ " " ++ name
    tenthsShown text = t ∧ unitShown text = name := by
  intro text
  have hp : ∀ c ∈ pointed 1 t, (c != ' ') = true := by
    intro c hc
    rw [pointed_one, List.mem_append, List.mem_cons, List.mem_singleton] at hc
    rcases hc with hc | rfl | rfl
    · exact ne_of_mem_digits hc rfl
    · rfl
    · exact ne_of_isDigit (isDigit_digitChar t) rfl
  have ht : text.toList = pointed 1 t ++ ' ' :: name.toList := by
    simp [text]
  constructor
  · rw [tenthsShown, ht, List.takeWhile_append_of_pos hp, List.takeWhile_cons_of_neg (by decide),
      List.append_nil, ofDigits_filter_pointed]
  · rw [unitShown, ht, List.dropWhile_append_of_pos hp, List.dropWhile_cons_of_neg (by decide)]
    exact String.ofList_toList

/-! ## units -/

/-- counts of at most 53 bits are shown as they are -/
theorem rounded53_of_lt {n : Nat} (h : n < 2 ^ 53) : rounded53 n = n := by
  have hl : n.log2 - 52 = 0 := by
    by_cases h0 : n = 0
    · rw [h0]
      rfl
    · have := (Nat.log2_lt h0).mpr h
      omega
  show roundHalfEven n (Nat.pow 2 (n.log2 - 52)) * Nat.pow 2 (n.log2 - 52) = n
  rw [hl]
  exact (Nat.mul_one _).trans (roundHalfEven_one n)

theorem unitSize_pos (unit : Nat) : 0 < unitSize unit := Nat.pow_pos (by decide)

theorem unitSize_succ (unit : Nat) : unitSize (unit + 1) = 1024 * unitSize unit := Nat.pow_succ'

/-- the unit chosen is the largest one that the count fills -/
theorem unitOf_bounds {n : Nat} (hl : 1024 ≤ n) (hu : n < 2 ^ 50) :
    unitOf n < 4 ∧ unitSize (unitOf n) ≤ n ∧ n < 1024 * unitSize (unitOf n) := by
  have h0 : unitSize 0 = 1024 := rfl
  have h1 : unitSize 1 = 1048576 := rfl
  have h2 : unitSize 2 = 1073741824 := rfl
  have h3 : unitSize 3 = 1099511627776 := rfl
  unfold unitOf
  split
  · omega
  split
  · omega
  split <;> omega

/-! ## counts -/

section
variable {n : Nat}

theorem nearest_tenths (n : Nat) : Nearest (10 * n) (unitSize (unitOf n)) (tenths n) :=
  nearest_roundHalfEven _ (unitSize_pos _)

theorem tenths_bounds (hl : 1024 ≤ n) (hu : n < 2 ^ 50) : 10 ≤ tenths n ∧ tenths n ≤ 10240 := by
  obtain ⟨-, hfills, hnext⟩ := unitOf_bounds hl hu
  have hp := unitSize_pos (unitOf n)
  exact ⟨(nearest_tenths n).ge hp (by omega), (nearest_tenths n).le hp (by omega)⟩

theorem tenths_lt_iff (n : Nat) : tenths n < 10240 ↔ 20 * n < 20479 * unitSize (unitOf n) := by
  rw [(nearest_tenths n).lt_iff (b := 10239) (unitSize_pos _) rfl]
  omega

/-- what is as good as the next unit is one of it -/
theorem nearest_next {size : Nat} (hs : 20479 * size ≤ 20 * n) (hn : n < 1024 * size) :
    Nearest (10 * n) (1024 * size) 10 := by
  constructor <;> omega

theorem exists_name (hu : unitOf n < 4) : ∃ name, units[unitOf n]? = some name :=
  ⟨_, List.getElem?_eq_getElem (l := units) hu⟩

theorem formatBytes_eq {bytes : UInt64} {name : String} (hl : 1024 ≤ bytes.toNat)
    (hu : bytes.toNat < 2 ^ 50) (hn : units[unitOf bytes.toNat]? = some name) :
    formatBytes bytes = String.ofList (pointed 1 (tenths bytes.toNat)) ++ " " ++ name := by
  have hlarge : ¬ bytes < 1024 := fun h => Nat.not_lt.mpr hl (UInt64.lt_iff_toNat_lt.mp h)
  have hr : rounded53 bytes.toNat = bytes.toNat := rounded53_of_lt (Nat.lt_trans hu (by decide))
  unfold formatBytes
  rw [if_neg hlarge, hr]
  dsimp only
  rw [hn]
  rfl

end

/-- **Byte counts are in their unit up to half a tenth below the next one.** A count from 1024 up to 2^50 is
shown with one decimal in the largest unit that it fills; the number is at least 1.0, at most 1024.0, and the
count in that unit rounded to tenths. It is shown as it should exactly if the count is less than 1023.95 of
the unit. From there on 1024.0 is shown, while 1.0 of the next unit, if there is one, would be right. -/
theorem in_unit_iff {bytes : UInt64} (hl : 1024 ≤ bytes.toNat) (hu : bytes.toNat < 2 ^ 50) :
    let n := bytes.toNat
    let size := unitSize (unitOf n)
    ∃ t name, units[unitOf n]? = some name ∧
      formatBytes bytes = String.ofList (pointed 1 t) ++ " " ++ name ∧
      (size ≤ n ∧ n < 1024 * size) ∧ Nearest (10 * n) size t ∧ 10 ≤ t ∧ t ≤ 10240 ∧
      (InUnit n (formatBytes bytes) ↔ 20 * n < 20479 * size) ∧
      (20479 * size ≤ 20 * n → formatBytes bytes = "1024.0 " ++ name ∧
        ∀ next, units[unitOf n + 1]? = some next → InUnit n ("1.0 " ++ next)) := by
  intro n size
  obtain ⟨hunit, hfills, hnext⟩ := unitOf_bounds hl hu
  obtain ⟨name, hname⟩ := exists_name hunit
  have hf := formatBytes_eq hl hu hname
  obtain ⟨hlow, hhigh⟩ := tenths_bounds hl hu
  obtain ⟨ht, hs⟩ := shown (tenths n) name
  rw [← hf] at ht hs
  refine ⟨tenths n, name, hname, hf, ⟨hfills, hnext⟩, nearest_tenths n, hlow, hhigh, ?_, ?_⟩
  · rw [← tenths_lt_iff, ← ht]
    constructor
    · rintro ⟨_, _, _, _, hlt⟩
      exact hlt
    · intro hlt
      refine ⟨unitOf n, hs ▸ hname, ?_, ?_, hlt⟩
      · rw [ht]
        exact nearest_tenths n
      · rw [ht]
        exact hlow
  · intro hover
    have h : tenths n = 10240 := Nat.le_antisymm hhigh (Nat.not_lt.mp fun h =>
      Nat.not_lt.mpr hover ((tenths_lt_iff n).mp h))
    refine ⟨?_, fun next hnx => ?_⟩
    · have htop : String.ofList (pointed 1 10240) ++ " " = "1024.0 " := by decide +kernel
      rw [hf, h, htop]
    · obtain ⟨ht', hs'⟩ := shown 10 next
      have hone : String.ofList (pointed 1 10) ++ " " = "1.0 " := by decide +kernel
      rw [hone] at ht' hs'
      refine ⟨unitOf n + 1, hs'.symm ▸ hnx, ?_, ?_, ?_⟩
      · rw [ht', unitSize_succ]
        exact nearest_next hover hnext
      · exact Nat.le_of_eq ht'.symm
      · rw [ht']
        decide

/-- the last count that is shown in KiB as it should be -/
theorem in_unit_iff_last_kib :
    1024 ≤ (1048524 : UInt64).toNat ∧ (1048524 : UInt64).toNat < 2 ^ 50 ∧
      formatBytes 1048524 = "1023.9 KiB" ∧ InUnit 1048524 "1023.9 KiB" := by
  have hl : 1024 ≤ (1048524 : UInt64).toNat := by decide
  have hu : (1048524 : UInt64).toNat < 2 ^ 50 := by decide
  have hf : formatBytes 1048524 = "1023.9 KiB" := by decide +kernel
  obtain ⟨_, _, _, _, _, _, _, _, hiff, _⟩ := in_unit_iff hl hu
  exact ⟨hl, hu, hf, hf ▸ hiff.mpr (by decide)⟩

/-- one byte more, and what is shown is a whole MiB in KiB -/
theorem full_mebibyte_in_kib : formatBytes 1048525 = "1024.0 KiB" ∧ ¬ InUnit 1048525 "1024.0 KiB" ∧
    InUnit 1048525 "1.0 MiB" := by
  have ht : tenthsShown "1024.0 KiB" = 10240 := by decide
  have ho : tenthsShown "1.0 MiB" = 10 := by decide
  refine ⟨by decide +kernel, ?_, 1, by decide, ?_, ?_, ?_⟩
  · rintro ⟨_, _, _, _, hlt⟩
    omega
  · rw [ho]
    constructor <;> decide
  · exact Nat.le_of_eq ho.symm
  · omega

end ServerConsole.Screen

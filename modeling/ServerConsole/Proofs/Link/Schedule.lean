import Mathlib.Algebra.Group.Nat.Defs
import ServerConsole.Settings.Basic

/-!
# The delays between attempts

What is promised is a delay that doubles from attempt to attempt until it meets the maximum. What is
waited doubles sixteen times at most.

* `Policy.Bounded`     how the two delays of a policy are bounded; settings that pass their check are so
                       (`bounded_of_check`);
* `Policy.promised`    the delay promised, in exact numbers;
* `delayFor_eq`        the delay waited: no multiple that matters is too long to be told;
* `delayFor_of_early`, `delayFor_of_late`  the first seventeen attempts, and those from there on;
* `promised_kept_iff`  for which attempts the two agree, and when the maximum is ever waited.
-/

namespace ServerConsole.Link.Policy

/-! ## definitions -/

structure Bounded (p : Policy) : Prop where
  positive : Nanos.ofMillis 1 ≤ p.initial
  ordered : p.initial ≤ p.maximum
  fits : p.maximum ≤ Nanos.longest

/-- attempts are counted from one -/
def promised (p : Policy) (attempt : Nat) : Nanos := min p.maximum (p.initial * 2 ^ (attempt - 1))

/-! ## bounds -/

theorem ofMillis_le_longest (ms : UInt64) : Nanos.ofMillis ms.toNat ≤ Nanos.longest := by
  have h : ms.toNat < 2 ^ 64 := ms.toNat_lt
  show ms.toNat * 1000000 ≤ (2 ^ 64 - 1) * 1000000000 + 999999999
  omega

/-- the delays of settings that pass their check -/
theorem bounded_of_check {s : Settings} (h : s.check = .ok ()) : s.reconnect.policy.Bounded := by
  unfold Settings.check at h
  split at h
  · cases h
  split at h
  · cases h
  split at h
  · cases h
  next hi =>
  split at h
  · cases h
  next hm =>
  have h1 : 1 ≤ s.reconnect.initial.toNat :=
    Nat.one_le_iff_ne_zero.mpr fun h0 => hi (UInt64.toNat_inj.mp h0)
  have h2 : s.reconnect.initial.toNat ≤ s.reconnect.maximum.toNat := Nat.not_lt.mp hm
  exact ⟨Nat.mul_le_mul_right _ h1, Nat.mul_le_mul_right _ h2, ofMillis_le_longest _⟩

/-! ## delays -/

section
variable {p : Policy} (hp : p.Bounded)
include hp

/-- a multiple that is cut at the longest delay is above the maximum anyway -/
theorem Bounded.delayFor_eq (n : UInt32) :
    p.delayFor n = min (p.initial * 2 ^ doublings n) p.maximum := by
  show min (min (p.initial * 2 ^ doublings n) Nanos.longest) p.maximum = _
  rw [Nat.min_assoc, Nat.min_eq_right hp.fits]

theorem Bounded.delayFor_of_early {n : UInt32} (hn : n.toNat ≤ 17) :
    p.delayFor n = p.promised n.toNat := by
  have hd : doublings n = n.toNat - 1 := Nat.min_eq_left (by omega)
  rw [hp.delayFor_eq, hd, Nat.min_comm]
  rfl

theorem Bounded.delayFor_of_late {n : UInt32} (hn : 17 ≤ n.toNat) :
    p.delayFor n = min (p.initial * 2 ^ 16) p.maximum := by
  have hd : doublings n = 16 := Nat.min_eq_right (by omega)
  rw [hp.delayFor_eq, hd]

/-- behind the seventeenth attempt more doublings are promised than are made -/
theorem Bounded.lt_of_late {n : Nat} (hn : 17 < n) :
    p.initial * 2 ^ 16 < p.initial * 2 ^ (n - 1) := by
  have hi : 0 < p.initial := Nat.lt_of_lt_of_le (by decide) hp.positive
  exact Nat.mul_lt_mul_of_pos_left (Nat.pow_lt_pow_right Nat.one_lt_two (by omega)) hi

theorem Bounded.delayFor_eq_promised_iff (n : UInt32) :
    p.delayFor n = p.promised n.toNat ↔ n.toNat ≤ 17 ∨ p.maximum ≤ p.initial * 2 ^ 16 := by
  by_cases hn : n.toNat ≤ 17
  · exact ⟨fun _ => .inl hn, fun _ => hp.delayFor_of_early hn⟩
  have hlt : p.initial * 2 ^ 16 < p.initial * 2 ^ (n.toNat - 1) := hp.lt_of_late (by omega)
  rw [hp.delayFor_of_late (by omega)]
  unfold promised
  by_cases hm : p.maximum ≤ p.initial * 2 ^ 16
  · rw [Nat.min_eq_right hm, Nat.min_eq_left (Nat.le_trans hm (Nat.le_of_lt hlt))]
    exact ⟨fun _ => .inr hm, fun _ => rfl⟩
  · have hm' : p.initial * 2 ^ 16 < p.maximum := Nat.lt_of_not_le hm
    rw [Nat.min_eq_left (Nat.le_of_lt hm')]
    exact ⟨fun h => absurd h (Nat.ne_of_lt (Nat.lt_min.mpr ⟨hm', hlt⟩)),
      fun h => absurd h (not_or.mpr ⟨hn, hm⟩)⟩

theorem Bounded.reaches_maximum_iff :
    (∃ first, ∀ n, first ≤ n → p.delayFor n = p.maximum) ↔ p.maximum ≤ p.initial * 2 ^ 16 := by
  constructor
  · rintro ⟨first, h⟩
    -- the last attempt that can be counted is late
    have hl : first ≤ 4294967295 := Nat.le_of_lt_succ first.toNat_lt
    have hm := h 4294967295 hl
    rw [hp.delayFor_of_late (by decide)] at hm
    rw [← hm]
    exact Nat.min_le_left _ _
  · intro h
    refine ⟨17, fun n hn => ?_⟩
    rw [hp.delayFor_of_late (UInt32.le_iff_toNat_le.mp hn)]
    exact Nat.min_eq_right h

end

/-- **The delays double up to the maximum, as far as sixteen doublings go.** Under a policy whose delays
are bounded: the delay of an attempt is the one promised exactly if it is one of the first seventeen, or
if sixteen doublings of the initial delay come to the maximum; from the seventeenth attempt on it stays at
what they come to, or at the maximum; and from some attempt on it is the maximum exactly if they come to
it. -/
theorem promised_kept_iff {p : Policy} (hp : p.Bounded) :
    (∀ n : UInt32, p.delayFor n = min p.maximum (p.initial * 2 ^ (n.toNat - 1)) ↔
      n.toNat ≤ 17 ∨ p.maximum ≤ p.initial * 2 ^ 16) ∧
    (∀ n : UInt32, 17 ≤ n → p.delayFor n = min (p.initial * 2 ^ 16) p.maximum) ∧
    ((∃ first, ∀ n, first ≤ n → p.delayFor n = p.maximum) ↔ p.maximum ≤ p.initial * 2 ^ 16) :=
  ⟨hp.delayFor_eq_promised_iff, fun _ hn => hp.delayFor_of_late (UInt32.le_iff_toNat_le.mp hn),
    hp.reaches_maximum_iff⟩

/-- under the standard policy every delay is the one promised -/
theorem promised_kept_iff_standard :
    standard.Bounded ∧ (∀ n : UInt32, standard.delayFor n = standard.promised n.toNat) ∧
      ∃ first, ∀ n, first ≤ n → standard.delayFor n = Nanos.ofMillis 15000 := by
  have hb : standard.Bounded := bounded_of_check (s := .standard) rfl
  obtain ⟨hk, _, hm⟩ := promised_kept_iff hb
  have hc : standard.maximum ≤ standard.initial * 2 ^ 16 := by decide
  exact ⟨hb, fun n => (hk n).mpr (.inr hc), hm.mpr hc⟩

/-- settings that pass their check, and an attempt that waits 65.536 seconds where 100 are promised -/
theorem doubling_stops_early :
    let s : Settings := { Settings.standard with reconnect := ⟨1, 100000, 20⟩ }
    s.check = .ok () ∧ s.reconnect.policy.delayFor 18 = Nanos.ofMillis 65536 ∧
      s.reconnect.policy.promised 18 = Nanos.ofMillis 100000 :=
  ⟨rfl, rfl, rfl⟩

end ServerConsole.Link.Policy

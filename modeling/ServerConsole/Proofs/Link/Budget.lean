import Mathlib.Data.List.Induction
import ServerConsole.Proofs.Link.Reports
import ServerConsole.Proofs.Link.Schedule

/-!
# The retry budget

A backoff is asked for the next delay, or reset, in any order. Between two resets it counts its answers.

* `Call`, `Stretch`    the two calls, and a backoff with the answers it gave since its last reset;
* `Policy.answer`      the answer owed after so many others;
* `Stretch.Kept`       the answers given are those owed, and counted up to the budget; every call keeps this;
* `delayFor_mono`      later attempts wait no shorter;
* `budget_kept`        every run of calls.
-/

namespace ServerConsole.Link

/-! ## definitions -/

inductive Call
  | next
  | reset
  deriving DecidableEq

/-- the calls since the last reset, or since the start -/
def sinceReset (calls : List Call) : Nat := (calls.reverse.takeWhile (· = .next)).length

/-- a backoff in use, and the answers it gave since its last reset -/
structure Stretch where
  backoff : Backoff
  answers : List (Option Nanos)

namespace Stretch

def new (p : Policy) : Stretch := ⟨.new p, []⟩

def call (s : Stretch) : Call → Stretch
  | .next =>
    match s.backoff.next? with
    | some (delay, b) => ⟨b, s.answers ++ [some delay]⟩
    | none => ⟨s.backoff, s.answers ++ [none]⟩
  | .reset => ⟨s.backoff.reset, []⟩

def run (s : Stretch) (calls : List Call) : Stretch := calls.foldl call s

def delays (s : Stretch) : List Nanos := s.answers.filterMap id

end Stretch

/-- the answer owed to a call with `i` others before it -/
def Policy.answer (p : Policy) (i : Nat) : Option Nanos :=
  if i < p.maxAttempts.toNat then some (p.delayFor (UInt32.ofNat (i + 1))) else none

/-! ## single delays -/

namespace Policy

theorem doublings_le (n : UInt32) : doublings n ≤ 16 := Nat.min_le_right _ _

/-- the factor of a delay fits a word -/
theorem factor_lt (n : UInt32) : Nat.pow 2 (doublings n) < UInt32.size :=
  Nat.lt_of_le_of_lt (Nat.pow_le_pow_right Nat.two_pos (doublings_le n)) (by decide)

theorem delayFor_mono (p : Policy) {m n : UInt32} (h : m.toNat ≤ n.toNat) :
    p.delayFor m ≤ p.delayFor n := by
  have hd : doublings m ≤ doublings n := by
    unfold doublings
    omega
  have hf : p.initial * 2 ^ doublings m ≤ p.initial * 2 ^ doublings n :=
    Nat.mul_le_mul_left _ (Nat.pow_le_pow_right Nat.two_pos hd)
  have ht : p.initial.times (2 ^ doublings m) ≤ p.initial.times (2 ^ doublings n) :=
    Nat.le_min.mpr ⟨Nat.le_trans (Nat.min_le_left _ _) hf, Nat.min_le_right _ _⟩
  exact Nat.le_min.mpr ⟨Nat.le_trans (Nat.min_le_left _ _) ht, Nat.min_le_right _ _⟩

theorem delayFor_le_maximum (p : Policy) (n : UInt32) : p.delayFor n ≤ p.maximum :=
  Nat.min_le_right _ _

theorem delayFor_le_longest (p : Policy) (n : UInt32) : p.delayFor n ≤ Nanos.longest :=
  Nat.le_trans (Nat.min_le_left _ _) (Nat.min_le_right _ _)

theorem delayFor_one (p : Policy) (hp : p.initial ≤ Nanos.longest) :
    p.delayFor 1 = min p.initial p.maximum := by
  show min (min (p.initial * 1) Nanos.longest) p.maximum = _
  rw [Nat.mul_one, Nat.min_eq_left hp]

/-! ## the answers owed -/

theorem toNat_ofNat_succ (p : Policy) {i : Nat} (h : i < p.maxAttempts.toNat) :
    (UInt32.ofNat (i + 1)).toNat = i + 1 := by
  have hm : p.maxAttempts.toNat < 2 ^ 32 := p.maxAttempts.toNat_lt
  exact Nat.mod_eq_of_lt (by omega)

/-- the delays among the answers owed are those of the attempts within the budget -/
theorem filterMap_answer (p : Policy) (n : Nat) :
    ((List.range n).map p.answer).filterMap id =
      (List.range (min n p.maxAttempts.toNat)).map fun i => p.delayFor (UInt32.ofNat (i + 1)) := by
  induction n with
  | zero => simp
  | succ n ih =>
    rw [List.range_succ, List.map_append, List.filterMap_append, ih]
    by_cases h : n < p.maxAttempts.toNat
    · have h1 : min n p.maxAttempts.toNat = n := Nat.min_eq_left (Nat.le_of_lt h)
      have h2 : min (n + 1) p.maxAttempts.toNat = n + 1 := Nat.min_eq_left h
      rw [h1, h2, List.range_succ, List.map_append]
      simp [answer, h]
    · have h1 : min n p.maxAttempts.toNat = p.maxAttempts.toNat := Nat.min_eq_right (by omega)
      have h2 : min (n + 1) p.maxAttempts.toNat = p.maxAttempts.toNat := Nat.min_eq_right (by omega)
      rw [h1, h2]
      simp [answer, h]

end Policy

/-! ## every call -/

theorem Backoff.next?_of_spent {b : Backoff} (h : b.policy.maxAttempts ≤ b.attempt) :
    b.next? = none := if_pos h

theorem Backoff.next?_of_left {b : Backoff} (h : b.attempt < b.policy.maxAttempts) :
    b.next? = some (b.policy.delayFor (b.attempt + 1), ⟨b.policy, b.attempt + 1⟩) :=
  if_neg (UInt32.not_le.mpr h)

theorem sinceReset_next (calls : List Call) : sinceReset (calls ++ [.next]) = sinceReset calls + 1 := by
  simp [sinceReset]

theorem sinceReset_reset (calls : List Call) : sinceReset (calls ++ [.reset]) = 0 := by
  simp [sinceReset]

namespace Stretch

theorem run_concat (s : Stretch) (calls : List Call) (c : Call) :
    s.run (calls ++ [c]) = (s.run calls).call c := by
  simp [run]

structure Kept (p : Policy) (s : Stretch) : Prop where
  policy : s.backoff.policy = p
  attempt : s.backoff.attempt.toNat = min s.answers.length p.maxAttempts.toNat
  answers : s.answers = (List.range s.answers.length).map p.answer

theorem kept_new (p : Policy) : (new p).Kept p where
  policy := rfl
  attempt := (Nat.zero_min _).symm
  answers := rfl

/-- one more answer, and it is the one owed -/
theorem Kept.push {p : Policy} {s : Stretch} (hs : s.Kept p) {b : Backoff} {answer : Option Nanos}
    (hp : b.policy = p) (ha : answer = p.answer s.answers.length)
    (hb : b.attempt.toNat = min (s.answers.length + 1) p.maxAttempts.toNat) :
    (⟨b, s.answers ++ [answer]⟩ : Stretch).Kept p where
  policy := hp
  attempt := by simpa using hb
  answers := by
    rw [List.length_append, List.length_singleton, List.range_succ, List.map_append, ← hs.answers, ha]
    rfl

theorem Kept.call {p : Policy} {s : Stretch} (hs : s.Kept p) (c : Call) : (s.call c).Kept p := by
  have hn := hs.attempt
  cases c with
  | reset => exact ⟨hs.policy, (Nat.zero_min _).symm, rfl⟩
  | next =>
    unfold Stretch.call
    by_cases h : s.backoff.attempt < s.backoff.policy.maxAttempts
    · rw [Backoff.next?_of_left h]
      have hk := Task.toNat_succ h
      rw [hs.policy, UInt32.lt_iff_toNat_lt] at h
      have hl : s.answers.length < p.maxAttempts.toNat := by omega
      -- the attempt claimed is the number of the answer
      have he : s.backoff.attempt + 1 = UInt32.ofNat (s.answers.length + 1) := by
        rw [← UInt32.toNat_inj, hk, p.toNat_ofNat_succ hl]
        omega
      have hb : (s.backoff.attempt + 1).toNat = min (s.answers.length + 1) p.maxAttempts.toNat := by
        omega
      refine hs.push hs.policy ?_ hb
      rw [Policy.answer, if_pos hl, he, hs.policy]
    · have h' : s.backoff.policy.maxAttempts ≤ s.backoff.attempt := UInt32.not_lt.mp h
      rw [Backoff.next?_of_spent h']
      rw [hs.policy, UInt32.le_iff_toNat_le] at h'
      have hl : ¬ s.answers.length < p.maxAttempts.toNat := by omega
      refine hs.push hs.policy ?_ (by omega)
      rw [Policy.answer, if_neg hl]

theorem kept_run (p : Policy) (calls : List Call) : ((new p).run calls).Kept p := by
  induction calls using List.reverseRecOn with
  | nil => exact kept_new p
  | append_singleton calls c ih =>
    rw [run_concat]
    exact ih.call c

theorem length_call_next (s : Stretch) : (s.call .next).answers.length = s.answers.length + 1 := by
  cases h : s.backoff.next? <;> simp [call, h]

/-- one answer to each call since the last reset -/
theorem length_answers (p : Policy) (calls : List Call) :
    ((new p).run calls).answers.length = sinceReset calls := by
  induction calls using List.reverseRecOn with
  | nil => rfl
  | append_singleton calls c ih =>
    rw [run_concat]
    cases c with
    | reset => exact (sinceReset_reset calls).symm
    | next => rw [length_call_next, sinceReset_next, ih]

/-! ## the delays of a stretch -/

section
variable {p : Policy} {s : Stretch} (hs : s.Kept p)
include hs

theorem Kept.delays_eq :
    s.delays = (List.range s.backoff.attempt.toNat).map fun i => p.delayFor (UInt32.ofNat (i + 1)) := by
  rw [delays, hs.answers, p.filterMap_answer, ← hs.attempt]

theorem Kept.attempt_le : s.backoff.attempt ≤ p.maxAttempts := by
  rw [UInt32.le_iff_toNat_le, hs.attempt]
  exact Nat.min_le_right _ _

theorem Kept.spent_of_none (h : none ∈ s.answers) : s.backoff.attempt = p.maxAttempts := by
  rw [hs.answers, List.mem_map] at h
  obtain ⟨i, hi, ha⟩ := h
  have hi' : i < s.answers.length := List.mem_range.mp hi
  have hm : ¬ i < p.maxAttempts.toNat := by
    intro hl
    rw [Policy.answer, if_pos hl] at ha
    cases ha
  rw [← UInt32.toNat_inj, hs.attempt]
  omega

theorem Kept.pairwise_delays : s.delays.Pairwise (· ≤ ·) := by
  rw [hs.delays_eq, List.pairwise_map]
  refine List.pairwise_lt_range.imp_of_mem fun {i j} _ hj hij => ?_
  have ha : s.backoff.attempt.toNat ≤ p.maxAttempts.toNat := UInt32.le_iff_toNat_le.mp hs.attempt_le
  have hj' : j < p.maxAttempts.toNat := Nat.lt_of_lt_of_le (List.mem_range.mp hj) ha
  refine p.delayFor_mono ?_
  rw [p.toNat_ofNat_succ hj', p.toNat_ofNat_succ (Nat.lt_trans hij hj')]
  omega

theorem Kept.delays_le {d : Nanos} (hd : d ∈ s.delays) : d ≤ p.maximum ∧ d ≤ Nanos.longest := by
  rw [hs.delays_eq, List.mem_map] at hd
  obtain ⟨i, _, rfl⟩ := hd
  exact ⟨p.delayFor_le_maximum _, p.delayFor_le_longest _⟩

theorem Kept.head_delays (hp : p.initial ≤ Nanos.longest) {d : Nanos} (hd : d ∈ s.delays.head?) :
    d = min p.initial p.maximum := by
  rw [hs.delays_eq] at hd
  cases hn : s.backoff.attempt.toNat with
  | zero =>
    rw [hn] at hd
    cases hd
  | succ n =>
    rw [hn, List.range_succ_eq_map, List.map_cons, List.head?_cons] at hd
    rw [← Option.some.inj hd]
    exact p.delayFor_one hp

end

end Stretch

/-- **The budget is kept.** Whatever the policy, and in whatever order the backoff is asked and reset, let
`n` calls have come since the last reset. The attempts counted are `n`, and never more than the budget;
neither the count nor the factor of a delay leaves its word, and no delay is too long to be told. The `i`-th
of the `n` calls was answered with the delay of the `i`-th attempt as long as the budget lasted, and with
nothing from there on, which leaves the count at the budget. And the delays given do not decrease, are at
most the maximum, and begin with the initial delay, or with the maximum when that is shorter. -/
theorem budget_kept {p : Policy} (hp : p.initial ≤ Nanos.longest) (calls : List Call) :
    let s := (Stretch.new p).run calls
    let n := sinceReset calls
    (s.backoff.attempt ≤ p.maxAttempts ∧ s.backoff.attempt.toNat = min n p.maxAttempts.toNat) ∧
    ((s.backoff.attempt < p.maxAttempts → s.backoff.attempt.toNat + 1 < UInt32.size) ∧
      ∀ k, Nat.pow 2 (Policy.doublings k) < UInt32.size ∧ p.delayFor k ≤ Nanos.longest) ∧
    (s.answers = (List.range n).map fun i =>
        if i < p.maxAttempts.toNat then some (p.delayFor (UInt32.ofNat (i + 1))) else none) ∧
    (none ∈ s.answers → s.backoff.attempt = p.maxAttempts) ∧
    (s.answers.filterMap id).Pairwise (· ≤ ·) ∧
    (∀ d ∈ s.answers.filterMap id, d ≤ p.maximum) ∧
    ∀ d ∈ (s.answers.filterMap id).head?, d = min p.initial p.maximum := by
  intro s n
  have hs : s.Kept p := Stretch.kept_run p calls
  have hn : s.answers.length = n := Stretch.length_answers p calls
  refine ⟨⟨hs.attempt_le, hn ▸ hs.attempt⟩, ⟨fun hl => ?_, fun k => ?_⟩, ?_, hs.spent_of_none,
    hs.pairwise_delays, fun d hd => (hs.delays_le hd).1, fun d hd => hs.head_delays hp hd⟩
  · have hl' := UInt32.lt_iff_toNat_lt.mp hl
    have hm : p.maxAttempts.toNat < UInt32.size := p.maxAttempts.toNat_lt
    omega
  · exact ⟨Policy.factor_lt k, p.delayFor_le_longest k⟩
  · rw [← hn]
    exact hs.answers

/-- the longest initial delay, and a budget of one attempt that is reset: the delay cannot double -/
theorem budget_kept_longest :
    let p : Policy := ⟨Nanos.longest, Nanos.longest, 1⟩
    p.initial ≤ Nanos.longest ∧
      ((Stretch.new p).run [.next, .next, .reset, .next, .next]).answers =
        [some Nanos.longest, none] :=
  ⟨Nat.le_refl _, (budget_kept (Nat.le_refl _) [.next, .next, .reset, .next, .next]).2.2.1⟩

end ServerConsole.Link

import Mathlib.Algebra.Group.Nat.Defs
import Mathlib.Data.List.DropRight
import Mathlib.Data.List.Nodup
import ServerConsole.Proofs.Power.Phases

/-!
# Runs of the power machine

A run is a list of events, each with the status shown when it comes in. The events may be anything:
completions of calls that were never begun, that came before, or that belong to another phase.

* `begun`                 the calls among the effects of a run;
* `ticketsFrom`           tickets that follow one another without a gap;
* `pairwise_ticketsFrom`  they grow until the words run out;
* `notMem_ticketsFrom`    the next ticket is none of the last 2^64 - 1;
* `Machine.run`           a run with all its effects;
* `step_begun`, `tickets_run`  a step begins at most one call, with the next ticket, so the tickets of a
                          run are such tickets;
* `Machine.applied`       the completions, but for those of kills, that are not ignored;
* `applied_sublist`       each of them is of a call begun, in the order of the calls, each once;
* `applied_once`          late, doubled and forged completions do no harm.
-/

namespace ServerConsole.Power

/-! ## definitions -/

/-- the call that an effect begins -/
def Effect.call? : Effect → Option (Ticket × PowerAction)
  | .dispatch ticket action => some (ticket, action)
  | _ => none

/-- the calls that a list of effects begins -/
def begun (es : List Effect) : List (Ticket × PowerAction) := es.filterMap Effect.call?

/-- the call that an event says has ended; kills are left out -/
def Event.ended? : Event → Option (Ticket × PowerAction)
  | .requested _ => none
  | .completed ticket action _ => if action = .kill then none else some (ticket, action)

/-- so many tickets, from a first one on -/
def ticketsFrom (t : Ticket) (n : Nat) : List Ticket := (List.range n).map fun i => t + .ofNat i

/-! ## calls and tickets -/

theorem begun_append (a b : List Effect) : begun (a ++ b) = begun a ++ begun b := List.filterMap_append

theorem begun_ahead (a : PowerAction) (t : Ticket) (b : PowerAction) :
    begun (ahead a ++ [.dispatch t b]) = [(t, b)] := by
  cases a <;> rfl

theorem begun_told (a : PowerAction) (f : Outcome) : begun (Machine.told a f) = [] := by
  cases f with
  | some reason => rfl
  | none => cases a <;> rfl

theorem ticketsFrom_succ (t : Ticket) (n : Nat) :
    ticketsFrom t (n + 1) = t :: ticketsFrom (t + 1) n := by
  unfold ticketsFrom
  rw [List.range_succ_eq_map, List.map_cons, List.map_map]
  refine congrArg₂ List.cons (UInt64.add_zero t) (List.map_congr_left fun i _ => ?_)
  show t + UInt64.ofNat (i + 1) = t + 1 + UInt64.ofNat i
  rw [Nat.add_comm i 1, UInt64.ofNat_add, UInt64.add_assoc]
  rfl

/-- tickets that start at one grow as long as there are words left -/
theorem pairwise_ticketsFrom {n : Nat} (h : n < 2 ^ 64) : (ticketsFrom 1 n).Pairwise (· < ·) := by
  refine List.pairwise_map.mpr (List.pairwise_lt_range.imp_of_mem fun {i j} _ hj hij => ?_)
  have hj : j < n := List.mem_range.mp hj
  have hval : ∀ k < n, ((1 : Ticket) + .ofNat k).toNat = 1 + k := by
    intro k hk
    rw [UInt64.toNat_add, UInt64.toNat_ofNat']
    show (1 + k % 2 ^ 64) % 2 ^ 64 = 1 + k
    omega
  rw [UInt64.lt_iff_toNat_lt, hval i (by omega), hval j hj]
  omega

/-- the ticket that follows is none of the last 2^64 - 1 -/
theorem notMem_ticketsFrom (t : Ticket) (n : Nat) :
    t + .ofNat n ∉ (ticketsFrom t n).rtake (2 ^ 64 - 1) := by
  intro h
  unfold ticketsFrom List.rtake at h
  rw [← List.map_drop, List.length_map, List.length_range] at h
  obtain ⟨i, hi, he⟩ := List.mem_map.mp h
  have hlt : i < n := List.mem_range.mp (List.mem_of_mem_drop hi)
  have hge : n - (2 ^ 64 - 1) ≤ i := by
    obtain ⟨k, hk, rfl⟩ := List.mem_iff_getElem.mp hi
    rw [List.getElem_drop, List.getElem_range]
    omega
  have hmod : i % 2 ^ 64 = n % 2 ^ 64 := by
    have h64 := congrArg UInt64.toNat (UInt64.add_right_inj t |>.mp he)
    rw [UInt64.toNat_ofNat', UInt64.toNat_ofNat'] at h64
    exact h64
  omega

namespace Machine

/-! ## runs -/

/-- a whole run: the machine at its end, and all effects -/
def run (m : Machine) : List (Event × Status) → Machine × List Effect
  | [] => (m, [])
  | (e, status) :: es =>
    let (m, out) := m.step e status
    let (m, more) := m.run es
    (m, out ++ more)

/-- the event has an effect or changes the machine -/
def heeds (m : Machine) (e : Event) (status : Status) : Bool := m.step e status ≠ (m, [])

/-- the call whose completion, not one of a kill, a step does not ignore -/
def applies (m : Machine) (e : Event) (status : Status) : List (Ticket × PowerAction) :=
  if m.heeds e status then e.ended?.toList else []

/-- the calls whose completions, but for those of kills, a run does not ignore -/
def applied (m : Machine) : List (Event × Status) → List (Ticket × PowerAction)
  | [] => []
  | (e, status) :: es => m.applies e status ++ (m.step e status).1.applied es

theorem run_nil (m : Machine) : m.run [] = (m, []) := rfl

theorem run_cons (m : Machine) (e : Event) (status : Status) (es : List (Event × Status)) :
    m.run ((e, status) :: es) = (((m.step e status).1.run es).1,
      (m.step e status).2 ++ ((m.step e status).1.run es).2) := rfl

theorem run_append (m : Machine) (a b : List (Event × Status)) :
    m.run (a ++ b) = (((m.run a).1.run b).1, (m.run a).2 ++ ((m.run a).1.run b).2) := by
  induction a generalizing m with
  | nil => simp [run_nil]
  | cons x a ih =>
    obtain ⟨e, status⟩ := x
    simp [run_cons, ih]

/-- an event without effect can be left out -/
theorem run_ignored {m : Machine} {pre : List (Event × Status)} {e : Event} {status : Status}
    (h : (m.run pre).1.step e status = ((m.run pre).1, [])) (post : List (Event × Status)) :
    m.run (pre ++ (e, status) :: post) = m.run (pre ++ post) := by
  rw [run_append, run_append, run_cons, h, List.nil_append]

/-! ## tickets -/

theorem begun_complete (m : Machine) (t : Ticket) (a : PowerAction) (f : Outcome) :
    begun (m.complete t a f).2 = [] := by
  rw [effects_complete]
  split
  · exact begun_told a f
  · rfl

theorem nextTicket_complete (m : Machine) (t : Ticket) (a : PowerAction) (f : Outcome) :
    (m.complete t a f).1.nextTicket = m.nextTicket := by
  rcases m.complete_cases t a f with ⟨_, h⟩ | ⟨_, h⟩ | ⟨_, _, h⟩ <;> rw [h]

/-- a step begins no call and leaves the next ticket, or it begins one and uses the ticket up -/
theorem step_begun (m : Machine) (e : Event) (status : Status) :
    (begun (m.step e status).2 = [] ∧ (m.step e status).1.nextTicket = m.nextTicket) ∨
    ∃ a, begun (m.step e status).2 = [(m.nextTicket, a)] ∧
      (m.step e status).1.nextTicket = m.nextTicket + 1 := by
  cases e with
  | completed t a f => exact .inl ⟨m.begun_complete t a f, m.nextTicket_complete t a f⟩
  | requested a =>
    show (begun (m.request a status).2 = [] ∧ (m.request a status).1.nextTicket = _) ∨
      ∃ b, begun (m.request a status).2 = [(m.nextTicket, b)] ∧
        (m.request a status).1.nextTicket = m.nextTicket + 1
    rcases m.request_cases a status with ⟨_, h⟩ | ⟨_, _, h⟩ | ⟨_, _, h⟩
    · rw [h]
      exact .inr ⟨.kill, rfl, rfl⟩
    · rw [h]
      exact .inr ⟨a, begun_ahead a _ a, rfl⟩
    · rw [h]
      exact .inl ⟨rfl, rfl⟩

/-- the tickets of a run follow one another from the next one on -/
theorem tickets_run (m : Machine) (es : List (Event × Status)) :
    (begun (m.run es).2).map Prod.fst = ticketsFrom m.nextTicket (begun (m.run es).2).length ∧
    (m.run es).1.nextTicket = m.nextTicket + .ofNat (begun (m.run es).2).length := by
  induction es generalizing m with
  | nil => exact ⟨rfl, (UInt64.add_zero _).symm⟩
  | cons x es ih =>
    obtain ⟨e, status⟩ := x
    obtain ⟨ht, hn⟩ := ih (m.step e status).1
    rw [run_cons, begun_append]
    rcases m.step_begun e status with ⟨hb, hs⟩ | ⟨a, hb, hs⟩
    · rw [hs] at ht hn
      rw [hb]
      exact ⟨ht, hn⟩
    · rw [hs] at ht hn
      rw [hb, List.singleton_append, List.map_cons, List.length_cons, ticketsFrom_succ, ht]
      refine ⟨rfl, ?_⟩
      show ((m.step e status).1.run es).1.nextTicket = _
      rw [hn, UInt64.add_assoc, Nat.add_comm, UInt64.ofNat_add]
      rfl

/-! ## completions -/

/-- what a step applies and awaits afterwards, it awaited before or begins -/
theorem applies_sublist (m : Machine) (e : Event) (status : Status) :
    (m.applies e status ++ (m.step e status).1.phase.awaited?.toList).Sublist
      (m.phase.awaited?.toList ++ begun (m.step e status).2) := by
  cases e with
  | requested a =>
    have ha : m.applies (.requested a) status = [] := ite_self _
    rw [ha, List.nil_append]
    show (m.request a status).1.phase.awaited?.toList.Sublist
      (m.phase.awaited?.toList ++ begun (m.request a status).2)
    rcases m.request_cases a status with ⟨_, h⟩ | ⟨hp, hl, h⟩ | ⟨_, _, h⟩
    · rw [h]
      show (afterKill m.phase _).awaited?.toList.Sublist _
      rw [awaited?_afterKill]
      exact List.sublist_append_left _ _
    · rw [h, begun_ahead]
      show (launch a _).awaited?.toList.Sublist _
      rw [awaited?_launch (ne_kill_of_launchable hl)]
      exact List.sublist_append_right _ _
    · rw [h]
      exact List.sublist_append_left _ _
  | completed t a f =>
    show (m.applies (.completed t a f) status ++ (m.complete t a f).1.phase.awaited?.toList).Sublist
      (m.phase.awaited?.toList ++ begun (m.complete t a f).2)
    rw [begun_complete, List.append_nil]
    rcases m.complete_cases t a f with ⟨rfl, h⟩ | ⟨hw, h⟩ | ⟨hk, hw, h⟩
    · have ha : m.applies (.completed t .kill f) status = [] := ite_self _
      rw [ha, List.nil_append, h]
      -- a kill leaves what is awaited, or takes it away
      show (phaseAfterKill m.phase t f).awaited?.toList.Sublist _
      cases hq : (phaseAfterKill m.phase t f).awaited? with
      | none => exact List.nil_sublist _
      | some k => rw [awaited?_phaseAfterKill hq]
    · have he : (Event.completed t a f).ended? = some (t, a) :=
        if_neg (Phase.ne_kill_of_awaited hw)
      rw [h, hw]
      show (m.applies (.completed t a f) status ++ []).Sublist [(t, a)]
      rw [List.append_nil]
      unfold applies
      rw [he]
      split
      · exact List.Sublist.refl _
      · exact List.nil_sublist _
    · have hn : m.heeds (.completed t a f) status = false := decide_eq_false (not_not_intro h)
      unfold applies
      rw [hn, h]
      exact List.Sublist.refl _

/-- what a run applies, it awaited at its start or begins, each call once -/
theorem applied_sublist (m : Machine) (es : List (Event × Status)) :
    (m.applied es).Sublist (m.phase.awaited?.toList ++ begun (m.run es).2) := by
  induction es generalizing m with
  | nil => exact List.nil_sublist _
  | cons x es ih =>
    obtain ⟨e, status⟩ := x
    rw [run_cons, begun_append, ← List.append_assoc]
    refine List.Sublist.trans ?_ ((m.applies_sublist e status).append_right _)
    rw [List.append_assoc]
    exact (ih (m.step e status).1).append_left _

/-- **A call is applied once at most.** For every run from the start with fewer than 2^64 - 1 calls,
whatever completions come in: the tickets of the calls grow; the completions, but for those of kills,
that have an effect or change the machine are those of calls begun, in their order, at most one for a
ticket; one whose ticket and action the phase does not await changes nothing and has no effect, so a
run goes on as if it had not come; and a completion of a kill other than the one the phase names leaves
the machine as it is. -/
theorem applied_once (es : List (Event × Status))
    (h : (begun (initial.run es).2).length < 2 ^ 64 - 1) :
    let m := (initial.run es).1
    let calls := begun (initial.run es).2
    (calls.map Prod.fst).Pairwise (· < ·) ∧
    ((initial.applied es).Sublist calls ∧
      ∀ t, ((initial.applied es).map Prod.fst).count t ≤ 1) ∧
    (∀ t a f status, a ≠ .kill → m.phase.awaited? ≠ some (t, a) →
      m.step (.completed t a f) status = (m, []) ∧
      ∀ post, initial.run (es ++ (.completed t a f, status) :: post) = initial.run (es ++ post)) ∧
    ∀ t f status, m.phase.kill? ≠ some t → (m.step (.completed t .kill f) status).1 = m := by
  intro m calls
  have htickets : (calls.map Prod.fst).Pairwise (· < ·) := by
    show ((begun (initial.run es).2).map Prod.fst).Pairwise (· < ·)
    rw [(initial.tickets_run es).1]
    exact pairwise_ticketsFrom (by omega)
  have hsub : (initial.applied es).Sublist calls := initial.applied_sublist es
  refine ⟨htickets, ⟨hsub, fun t => ?_⟩, fun t a f status hk hw => ?_, fun t f status hk => ?_⟩
  · have hnodup : (calls.map Prod.fst).Nodup := htickets.imp UInt64.ne_of_lt
    exact List.nodup_iff_count_le_one.mp (hnodup.sublist (hsub.map Prod.fst)) t
  · have hs : m.step (.completed t a f) status = (m, []) := by
      rcases m.complete_cases t a f with ⟨ha, _⟩ | ⟨ha, _⟩ | ⟨_, _, hc⟩
      · exact absurd ha hk
      · exact absurd ha hw
      · exact hc
    exact ⟨hs, run_ignored hs⟩
  · rcases m.complete_cases t .kill f with ⟨_, hc⟩ | ⟨ha, _⟩ | ⟨ha, _, _⟩
    · show (m.complete t .kill f).1 = m
      rw [hc, phaseAfterKill_of_ne hk]
    · exact absurd rfl (Phase.ne_kill_of_awaited ha)
    · exact absurd rfl ha

/-- a stop, a kill on top of it that fails, the stop that succeeds, and a start: the completion of the
stop comes again, with one of the kill and one of a call that was never begun -/
theorem applied_once_doubled :
    let es : List (Event × Status) := [(.requested .stop, .running), (.requested .stop, .running),
      (.completed 2 .kill (some "no"), .running), (.completed 1 .stop none, .running),
      (.requested .start, .stopped)]
    let m := (initial.run es).1
    m.phase = .starting 3 ∧ (begun (initial.run es).2).length < 2 ^ 64 - 1 ∧
    (PowerAction.stop ≠ .kill ∧ m.phase.awaited? ≠ some (1, .stop) ∧
      m.step (.completed 1 .stop none) .stopped = (m, [])) ∧
    (PowerAction.start ≠ .kill ∧ m.phase.awaited? ≠ some (9, .start) ∧
      m.step (.completed 9 .start none) .stopped = (m, [])) ∧
    m.phase.kill? ≠ some 2 ∧ (m.step (.completed 2 .kill none) .stopped).1 = m := by
  intro es m
  obtain ⟨_, _, hstale, hkill⟩ := applied_once es (by decide)
  refine ⟨rfl, by decide, ⟨by decide, by decide, ?_⟩, ⟨by decide, by decide, ?_⟩, by decide, ?_⟩
  · exact (hstale 1 .stop none .stopped (by decide) (by decide)).1
  · exact (hstale 9 .start none .stopped (by decide) (by decide)).1
  · exact hkill 2 none .stopped (by decide)

end Machine

end ServerConsole.Power

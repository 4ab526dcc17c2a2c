import ServerConsole.Proofs.Session.Traffic

/-!
# Every call is accounted for

The phase of the power machine and the calls that are unsettled go together:

* `Accounted.named`   what the phase of an open session names is unsettled;
* `Accounted.single`  of starts and restarts only the one the phase awaits is unsettled, once;
* `accounted_step`, `accounted_run`  every move keeps this, so it holds in every run.

A stop may well be unsettled without being awaited: `Proofs/Session/SingleFlight`. Tickets repeat
after 2^64 calls; counting the unsettled calls of a ticket makes this no special case.
-/

namespace ServerConsole.Traffic

structure Accounted (t : Traffic) : Prop where
  named : t.session.closed = false → ∀ k ∈ t.session.power.phase.calls, k ∈ t.unsettled
  single : ∀ k, k.2 = .start ∨ k.2 = .restart →
    t.unsettled.count k ≤ if t.session.power.phase.awaited? = some k then 1 else 0

theorem accounted_new (o : Session.Opening) (patience : Nat) :
    Accounted (new o.session patience) := by
  obtain ⟨_, _, _, ho⟩ := o.session_frame
  have hp : o.session.power.phase = .idle := by rw [ho]; rfl
  constructor
  · intro _ k hk
    have hk' : k ∈ o.session.power.phase.calls := hk
    rw [hp] at hk'
    cases hk'
  · intro k _
    exact Nat.zero_le _

/-! ## one move -/

/-- time passes, a call ends, or the power machine is not concerned -/
theorem Accounted.of_perm {t u : Traffic} (h : Accounted t) (hp : u.unsettled.Perm t.unsettled)
    (hm : u.session.power = t.session.power)
    (hc : u.session.closed = false → t.session.closed = false) : Accounted u := by
  constructor
  · intro ho k hk
    rw [hm] at hk
    exact hp.mem_iff.mpr (h.named (hc ho) k hk)
  · intro k hk
    rw [hm, hp.count_eq]
    exact h.single k hk

/-- a call is begun -/
theorem Accounted.begin {t u : Traffic} (h : Accounted t) {k : Power.Ticket × PowerAction}
    (hp : u.unsettled.Perm (k :: t.unsettled)) (ho : t.session.closed = false)
    (hn : ∀ j ∈ u.session.power.phase.calls, j ∈ t.session.power.phase.calls ∨ j = k)
    (hs : k.2 = .start ∨ k.2 = .restart →
      t.session.power.phase.awaited? = none ∧ u.session.power.phase.awaited? = some k)
    (hw : ∀ j, t.session.power.phase.awaited? = some j → u.session.power.phase.awaited? = some j) :
    Accounted u := by
  constructor
  · intro _ j hj
    rw [hp.mem_iff]
    rcases hn j hj with hj | rfl
    · exact List.mem_cons_of_mem _ (h.named ho j hj)
    · exact List.mem_cons_self
  · intro j hj
    have hb := h.single j hj
    rw [hp.count_eq, List.count_cons]
    by_cases e : k = j
    · subst e
      obtain ⟨h1, h2⟩ := hs hj
      rw [h1] at hb
      rw [h2]
      simpa using hb
    · have hne : (k == j) = false := beq_false_of_ne e
      rw [hne]
      by_cases ha : t.session.power.phase.awaited? = some j
      · rw [if_pos ha] at hb
        rw [if_pos (hw j ha)]
        simpa using hb
      · rw [if_neg ha] at hb
        have h0 : t.unsettled.count j = 0 := Nat.le_zero.mp hb
        rw [h0]
        exact Nat.zero_le _

/-- a completion is taken by an open session -/
theorem Accounted.settle {t u : Traffic} (h : Accounted t) {d : Session.Completion}
    (hp : t.unsettled.Perm (d.key :: u.unsettled)) (ho : t.session.closed = false)
    (hm : u.session.power = (t.session.power.complete d.ticket d.action d.failure).1) :
    Accounted u := by
  constructor
  · intro _ k hk
    rw [hm] at hk
    obtain ⟨h1, h2⟩ := Power.Machine.calls_complete hk
    rcases List.mem_cons.mp (hp.mem_iff.mp (h.named ho k h1)) with e | hu
    · exact absurd e h2
    · exact hu
  · intro k hk
    have hb := h.single k hk
    rw [hp.count_eq, List.count_cons] at hb
    rw [hm]
    rcases t.session.power.complete_cases d.ticket d.action d.failure with
      ⟨hd, hc⟩ | ⟨hd, hc⟩ | ⟨_, _, hc⟩
    · rw [hc]
      by_cases ha : t.session.power.phase.awaited? = some k
      · by_cases hl : (Power.Machine.phaseAfterKill t.session.power.phase d.ticket d.failure).awaited? =
          some k
        · rw [if_pos ha] at hb
          rw [if_pos hl]
          omega
        · obtain ⟨s, _, rfl, _⟩ := Power.Machine.awaited?_lost ha hl
          rcases hk with hk | hk <;> cases hk
      · rw [if_neg ha] at hb
        omega
    · have h0 : u.unsettled.count k = 0 := by
        replace hd : t.session.power.phase.awaited? = some d.key := hd
        rw [hd] at hb
        by_cases e : d.key = k
        · rw [if_pos (congrArg some e), beq_iff_eq.mpr e, if_pos rfl] at hb
          omega
        · rw [if_neg (fun he => e (Option.some.inj he))] at hb
          omega
      rw [h0]
      exact Nat.zero_le _
    · rw [hc]
      exact Nat.le_trans (Nat.le_add_right _ _) hb

/-- a completion comes to a closed session, which drops it -/
theorem Accounted.drop {t u : Traffic} (h : Accounted t) {d : Session.Completion}
    (hp : t.unsettled.Perm (d.key :: u.unsettled)) (hc : t.session.closed = true)
    (hs : u.session = t.session) : Accounted u := by
  constructor
  · intro ho
    rw [hs, hc] at ho
    cases ho
  · intro k hk
    have hb := h.single k hk
    rw [hp.count_eq, List.count_cons] at hb
    rw [hs]
    omega

theorem accounted_act {t : Traffic} (h : Accounted t) (m : Move) : Accounted (t.act m).1 := by
  have ha := t.acts m
  generalize t.act m = r at ha ⊢
  cases ha with
  | kills s c ho hc hs =>
    -- a kill leaves the awaited call as it is
    have hw : s.power.phase.awaited? = t.session.power.phase.awaited? := by
      rw [hs]
      exact Power.Machine.awaited?_afterKill _ _
    refine h.begin (k := c.key) (t.unsettled_begin s [c]) ho ?_ ?_ ?_
    · intro j hj
      have hj' : j ∈ s.power.phase.calls := hj
      rw [hs] at hj'
      rw [hc]
      exact Power.Machine.calls_afterKill hj'
    · rw [hc]
      rintro (h | h) <;> cases h
    · intro j hj
      exact hw.trans hj
  | launches s c ho hn hk hi hs =>
    -- an action is launched from the idle phase only
    have hw : t.session.power.phase.awaited? = none := Power.Phase.awaited?_eq_none.mpr hi
    refine h.begin (k := c.key) (t.unsettled_begin s [c]) ho ?_ ?_ ?_
    · intro j hj
      have hj' : j ∈ s.power.phase.calls := hj
      rw [hs, Power.calls_launch hk] at hj'
      exact .inr (List.mem_singleton.mp hj')
    · intro _
      refine ⟨hw, ?_⟩
      show s.power.phase.awaited? = _
      rw [hs]
      exact Power.awaited?_launch hk _
    · intro j hj
      rw [hw] at hj
      cases hj
  | ends c f hc => exact h.of_perm (unsettled_answer hc f) rfl id
  | takes s d rest hm he hs =>
    have hp : t.unsettled.Perm
        (d.key :: ({ t with session := s, ended := rest } : Traffic).unsettled) := by
      unfold unsettled
      rw [he]
      exact List.perm_middle
    rcases hs with ⟨hc, hs⟩ | ⟨ho, hs⟩
    · exact h.drop hp hc hs
    · exact h.settle hp ho hs
  | passes s now hs hc => exact h.of_perm (List.Perm.refl _) hs hc

theorem accounted_step {t : Traffic} (h : Accounted t) (m : Move) : Accounted (t.step m).1 :=
  (accounted_act h m).of_perm (unsettled_expire _) rfl id

/-! ## every run -/

theorem accounted_run (o : Session.Opening) (patience : Nat) (ms : List Move) :
    Accounted ((new o.session patience).run ms).1 :=
  run_of_step (P := Accounted) (fun _ m h => accounted_step h m) (accounted_new o patience) ms

end ServerConsole.Traffic

import ServerConsole.Proofs.Session.Accounts

/-!
# Single flight

At most one start, stop or restart is meant to be out at a time. The power machine sees to it by
its phase. The phase follows the calls out but for one case: a kill on top of a stop that succeeds
takes the machine to the idle phase while the stop may still be out.

* `flights`             the calls out other than kills;
* `forgotten`           those among them that the phase does not await;
* `stop_of_forgotten`, `forgotten_step`  they are stops, and how they come about;
* `single_flight_iff`   a run keeps single flight exactly when nothing is launched while a forgotten
                        stop is out;
* `start_beside_stop`   a run that does not.
-/

namespace ServerConsole.Traffic

/-! ## definitions -/

def flights (t : Traffic) : List PendingCall := t.out.filter fun c => c.action ≠ .kill

/-- calls out, other than kills, that the power machine does not await any more -/
def forgotten (t : Traffic) : List PendingCall :=
  t.flights.filter fun c => t.session.power.phase.awaited? ≠ some c.key

/-- a move begins a start, a stop or a restart -/
def launches (t : Traffic) (m : Move) : Prop := ∃ c ∈ (t.step m).2, c.action ≠ .kill

theorem mem_flights {t : Traffic} {c : PendingCall} :
    c ∈ t.flights ↔ c ∈ t.out ∧ c.action ≠ .kill := by
  simp [flights]

theorem mem_forgotten {t : Traffic} {c : PendingCall} :
    c ∈ t.forgotten ↔
      c ∈ t.out ∧ c.action ≠ .kill ∧ t.session.power.phase.awaited? ≠ some c.key := by
  simp [forgotten, mem_flights, and_assoc]

theorem forgotten_of_idle {t : Traffic} (h : t.session.power.phase = .idle) :
    t.forgotten = t.flights := by
  unfold forgotten
  rw [Power.Phase.awaited?_eq_none.mpr h]
  simp

/-! ## forgotten calls -/

theorem stop_of_forgotten {t : Traffic} (h : Accounted t) {c : PendingCall} (hc : c ∈ t.forgotten) :
    c.action = .stop := by
  obtain ⟨ho, hk, hw⟩ := mem_forgotten.mp hc
  have hu : c.key ∈ t.unsettled := List.mem_append_left _ (List.mem_map_of_mem ho)
  have hpos : 0 < t.unsettled.count c.key := List.count_pos_iff.mpr hu
  -- a start or a restart that is not awaited is not unsettled
  have hno : ¬ (c.action = .start ∨ c.action = .restart) := by
    intro ha
    have hs := h.single c.key ha
    rw [if_neg hw] at hs
    omega
  cases e : c.action with
  | stop => rfl
  | kill => exact absurd e hk
  | start => exact absurd (.inl e) hno
  | restart => exact absurd (.inr e) hno

/-- a call is forgotten when the kill on top of it succeeds; the other case needs a second call of
the same ticket, which takes 2^64 calls -/
theorem forgotten_step {t : Traffic} {m : Move} {c : PendingCall} (hc : c ∈ (t.step m).1.forgotten) :
    c ∈ t.forgotten ∨ ∃ d rest, m = .take ∧ t.ended = d :: rest ∧
      ((d.action = .kill ∧ d.failure = none ∧
          t.session.power.phase = .escalated c.ticket d.ticket) ∨ d.key = c.key) := by
  obtain ⟨ho, hk, hw⟩ := mem_forgotten.mp hc
  have hout : c ∈ t.out ++ (t.step m).2 := (out_step t m).subset ho
  replace hw : (t.act m).1.session.power.phase.awaited? ≠ some c.key := hw
  replace hout : c ∈ t.out ++ (t.act m).2 := hout
  have ha := t.acts m
  generalize t.act m = r at ha hw hout
  cases ha with
  | kills s b ho hb hs =>
    left
    rcases List.mem_append.mp hout with hin | hin
    · refine mem_forgotten.mpr ⟨hin, hk, ?_⟩
      replace hw : s.power.phase.awaited? ≠ some c.key := hw
      rw [hs] at hw
      exact fun h => hw ((Power.Machine.awaited?_afterKill _ _).trans h)
    · rw [List.mem_singleton.mp hin, hb] at hk
      exact absurd rfl hk
  | launches s b ho hn hbk hi hs =>
    left
    rcases List.mem_append.mp hout with hin | hin
    · refine mem_forgotten.mpr ⟨hin, hk, ?_⟩
      rw [Power.Phase.awaited?_eq_none.mpr hi]
      exact fun h => by cases h
    · replace hw : s.power.phase.awaited? ≠ some c.key := hw
      rw [hs, List.mem_singleton.mp hin, Power.awaited?_launch hbk] at hw
      exact absurd rfl hw
  | ends b f hb =>
    rw [List.append_nil] at hout
    exact .inl (mem_forgotten.mpr ⟨hout, hk, hw⟩)
  | takes s d rest hm he hs =>
    rw [List.append_nil] at hout
    replace hw : s.power.phase.awaited? ≠ some c.key := hw
    by_cases hold : t.session.power.phase.awaited? = some c.key
    · right
      refine ⟨d, rest, hm, he, ?_⟩
      rcases hs with ⟨_, hs⟩ | ⟨_, hs⟩
      · rw [hs] at hw
        exact absurd hold hw
      · rw [hs] at hw
        rcases t.session.power.complete_cases d.ticket d.action d.failure with
          ⟨hd, hc⟩ | ⟨hd, _⟩ | ⟨_, _, hc⟩
        · rw [hc] at hw
          obtain ⟨u, hp, hu, hf⟩ := Power.Machine.awaited?_lost hold hw
          have e : c.ticket = u := congrArg Prod.fst hu
          exact .inl ⟨hd, hf, by rw [hp, e]⟩
        · exact .inr (Option.some.inj (hd.symm.trans hold))
        · rw [hc] at hw
          exact absurd hold hw
    · exact .inl (mem_forgotten.mpr ⟨hout, hk, hold⟩)
  | passes s now hs _ =>
    rw [List.append_nil] at hout
    replace hw : s.power.phase.awaited? ≠ some c.key := hw
    rw [hs] at hw
    exact .inl (mem_forgotten.mpr ⟨hout, hk, hw⟩)

/-! ## one move -/

theorem flights_step (t : Traffic) (m : Move) :
    (t.step m).1.flights.length ≤
      t.flights.length + ((t.step m).2.filter fun c => c.action ≠ .kill).length := by
  have h := ((out_step t m).filter fun c => decide (c.action ≠ .kill)).length_le
  rw [List.filter_append, List.length_append] at h
  exact h

/-- what is launched is one call, from the idle phase -/
theorem launched (t : Traffic) (m : Move) :
    ((t.step m).2.filter fun c => c.action ≠ .kill) = [] ∨
      ∃ c, (t.step m).2 = [c] ∧ c.action ≠ .kill ∧ c.since = t.now ∧
        t.session.power.phase = .idle ∧ (t.act m).1.out = t.out ++ [c] ∧
        (t.act m).1.now = t.now ∧ (t.act m).1.patience = t.patience := by
  show ((t.act m).2.filter fun c => c.action ≠ .kill) = [] ∨ ∃ c, (t.act m).2 = [c] ∧ _
  have ha := t.acts m
  generalize t.act m = r at ha ⊢
  cases ha with
  | kills s c ho hc hs =>
    left
    rw [hc]
    rfl
  | launches s c ho hn hk hi hs => exact .inr ⟨c, rfl, hk, hn, hi, rfl, rfl, rfl⟩
  | ends c f => exact .inl rfl
  | takes s d rest => exact .inl rfl
  | passes s now => exact .inl rfl

/-- a move keeps single flight if it launches nothing while a call is forgotten -/
theorem flights_step_le_one {t : Traffic} {m : Move} (h : t.flights.length ≤ 1)
    (hf : t.launches m → t.forgotten = []) : (t.step m).1.flights.length ≤ 1 := by
  have hle := t.flights_step m
  rcases t.launched m with hn | ⟨c, hc, hk, _, hi, _⟩
  · rw [hn, List.length_nil] at hle
    omega
  · have he : t.flights = [] := by
      rw [← forgotten_of_idle hi]
      exact hf ⟨c, by rw [hc]; exact List.mem_singleton_self c, hk⟩
    have hl := List.length_filter_le (fun c : PendingCall => decide (c.action ≠ .kill)) (t.step m).2
    rw [hc] at hl hle
    rw [he] at hle
    simp only [List.length_nil, List.length_singleton] at hl hle
    omega

/-- a launch beside a forgotten call breaks single flight -/
theorem two_le_flights_step {t : Traffic} {m : Move} (h : ∀ c ∈ t.out, t.timeline.overdue c = false)
    (hl : t.launches m) (hf : t.forgotten ≠ []) : 2 ≤ (t.step m).1.flights.length := by
  obtain ⟨b, hb, hbk⟩ := hl
  rcases t.launched m with hn | ⟨c, hc, hk, hsince, hi, hout, hnow, hpat⟩
  · have hmem : b ∈ ((t.step m).2.filter fun c => c.action ≠ .kill) :=
      List.mem_filter.mpr ⟨hb, decide_eq_true hbk⟩
    rw [hn] at hmem
    cases hmem
  · obtain ⟨f, hf⟩ := List.exists_mem_of_ne_nil _ hf
    obtain ⟨hfo, hfk, _⟩ := mem_forgotten.mp hf
    -- a call has time left, so a call begun now has too, and all stay out
    have hpos : 0 < t.patience := Nat.zero_lt_of_lt (overdue_eq_false.mp (h f hfo))
    have hstay : (t.step m).1.out = t.out ++ [c] := by
      show ((t.act m).1.out.filter fun c => !(t.act m).1.timeline.overdue c) = _
      rw [hout, List.filter_eq_self]
      intro x hx
      have hx' : (t.act m).1.timeline.overdue x = false := by
        rw [overdue_eq_false, hnow, hpat]
        rcases List.mem_append.mp hx with hx | hx
        · exact overdue_eq_false.mp (h x hx)
        · rw [List.mem_singleton.mp hx, hsince]
          omega
      rw [hx']
      rfl
    have hfl : (t.step m).1.flights = t.flights ++ [c] := by
      have hone : [c].filter (fun c => decide (c.action ≠ .kill)) = [c] := by simp [hk]
      unfold flights
      rw [hstay, List.filter_append, hone]
    have hone : 0 < t.flights.length :=
      List.length_pos_of_mem (mem_flights.mpr ⟨hfo, hfk⟩)
    rw [hfl, List.length_append, List.length_singleton]
    omega

/-! ## every run -/

theorem flights_run_le_one {t : Traffic} (h : t.flights.length ≤ 1) {ms : List Move}
    (hf : ∀ pre m, pre ++ [m] <+: ms → (t.run pre).1.launches m → (t.run pre).1.forgotten = []) :
    ∀ pre, pre <+: ms → (t.run pre).1.flights.length ≤ 1 := by
  induction ms generalizing t with
  | nil =>
    intro pre hp
    rw [List.prefix_nil.mp hp]
    exact h
  | cons m ms ih =>
    intro pre hp
    cases pre with
    | nil => exact h
    | cons m' pre =>
      obtain ⟨rfl, hq⟩ := List.cons_prefix_cons.mp hp
      have h1 : (t.step m').1.flights.length ≤ 1 :=
        flights_step_le_one h (hf [] m' (List.cons_prefix_cons.mpr ⟨rfl, List.nil_prefix⟩))
      exact ih h1 (fun q x hx => hf (m' :: q) x (List.cons_prefix_cons.mpr ⟨rfl, hx⟩)) pre hq

/-- **Single flight, and when it fails.** In every run of a session with its calls: at every moment
at most one start, stop or restart is out, exactly if none is launched while a forgotten call is
out. A forgotten call is always a stop, and it is forgotten when the kill on top of it succeeds
before it has ended (the last case needs two calls with one ticket, 2^64 calls apart). -/
theorem single_flight_iff (o : Session.Opening) (patience : Nat) (ms : List Move) :
    let after ms := ((new o.session patience).run ms).1
    ((∀ pre, pre <+: ms → (after pre).flights.length ≤ 1) ↔
      ∀ pre m, pre ++ [m] <+: ms → (after pre).launches m → (after pre).forgotten = []) ∧
    (∀ c ∈ (after ms).forgotten, c.action = .stop) ∧
    ∀ m, ∀ c ∈ (after (ms ++ [m])).forgotten, c ∈ (after ms).forgotten ∨
      ∃ d rest, m = .take ∧ (after ms).ended = d :: rest ∧
        ((d.action = .kill ∧ d.failure = none ∧
          (after ms).session.power.phase = .escalated c.ticket d.ticket) ∨ d.key = c.key) := by
  intro after
  refine ⟨⟨fun h pre m hp hl => ?_, fun h => ?_⟩, fun c hc => ?_, fun m c hc => ?_⟩
  · by_cases hf : (after pre).forgotten = []
    · exact hf
    · have h2 := two_le_flights_step (overdue_run o.session patience pre) hl hf
      have h1 : ((after pre).step m).1.flights.length ≤ 1 := by
        have h1 := h (pre ++ [m]) hp
        replace h1 : ((new o.session patience).run (pre ++ [m])).1.flights.length ≤ 1 := h1
        rw [run_concat] at h1
        exact h1
      replace h2 : 2 ≤ ((after pre).step m).1.flights.length := h2
      omega
  · exact flights_run_le_one (Nat.zero_le _) h
  · exact stop_of_forgotten (accounted_run o patience ms) hc
  · replace hc : c ∈ ((new o.session patience).run (ms ++ [m])).1.forgotten := hc
    rw [run_concat] at hc
    exact forgotten_step hc

/-- two stops, the second one a kill that succeeds, and a start: the stop and the start are out
together -/
theorem start_beside_stop :
    ((new (Session.Opening.plain .running .everything).session 30000).run
      [.operate (.request .stop), .operate (.request .stop), .answer ⟨2, .kill, 0⟩ none, .take,
        .operate (.request .start)]).1.flights = [⟨1, .stop, 0⟩, ⟨3, .start, 0⟩] := by
  decide

end ServerConsole.Traffic

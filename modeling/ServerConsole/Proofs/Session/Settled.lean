import ServerConsole.Proofs.Session.Accounts

/-!
# The power machine does not get stuck

A phase other than the idle one waits for a completion. The completion always comes: the call it is
of is out, or has ended and waits to be taken.

* `settled`, `unsettled_run`  the completions a run takes; each call begun is settled once or still
                              unsettled;
* `paused`, `out_of_time`     how long a run waits; no call is out any longer than its time;
* `ended_takes`               taking completions empties the queue;
* `never_stuck`               what the phase names is unsettled, so the machine comes to rest.
-/

namespace ServerConsole

/-- the time a move takes -/
def Move.pause : Move → Nat
  | .wait ms => ms
  | .operate _ | .answer _ _ | .take => 0

def paused : List Move → Nat
  | [] => 0
  | m :: ms => m.pause + paused ms

namespace Traffic

/-! ## definitions -/

/-- no action is under way, and none is shown -/
def AtRest (t : Traffic) : Prop :=
  t.session.power.phase = .idle ∧ t.session.powerView.inFlight = none

/-- the call whose completion a move has the session take -/
def settles (t : Traffic) : Move → List (Power.Ticket × PowerAction)
  | .take => (t.ended.head?.map Session.Completion.key).toList
  | .operate _ | .answer _ _ | .wait _ => []

/-- the calls whose completion a run has the session take -/
def settled (t : Traffic) : List Move → List (Power.Ticket × PowerAction)
  | [] => []
  | m :: ms => t.settles m ++ (t.step m).1.settled ms

/-! ## each call is settled once -/

theorem unsettled_act (t : Traffic) (m : Move) :
    ((t.act m).2.map PendingCall.key ++ t.unsettled).Perm
      (t.settles m ++ (t.act m).1.unsettled) := by
  cases m with
  | operate op => exact (t.unsettled_begin _ _).symm
  | answer c failure =>
    by_cases hc : c ∈ t.out
    · rw [act_answer hc]
      exact (unsettled_answer hc failure).symm
    · rw [act_answer_of_notMem hc]
      exact List.Perm.refl _
  | take =>
    cases he : t.ended with
    | nil =>
      rw [act_take_nil he]
      simp [settles, he]
    | cons d rest =>
      rw [act_take he]
      simp only [settles, he]
      unfold unsettled
      rw [he]
      exact List.perm_middle
  | wait ms => exact List.Perm.refl _

theorem unsettled_step (t : Traffic) (m : Move) :
    ((t.step m).2.map PendingCall.key ++ t.unsettled).Perm
      (t.settles m ++ (t.step m).1.unsettled) :=
  (t.unsettled_act m).trans ((unsettled_expire _).symm.append_left _)

theorem unsettled_run (t : Traffic) (ms : List Move) :
    ((t.run ms).2.map PendingCall.key ++ t.unsettled).Perm
      (t.settled ms ++ (t.run ms).1.unsettled) := by
  induction ms generalizing t with
  | nil => exact List.Perm.refl _
  | cons m ms ih =>
    rw [List.perm_iff_count]
    intro k
    have h1 := (t.unsettled_step m).count_eq k
    have h2 := (ih (t.step m).1).count_eq k
    simp only [run_cons, settled, List.map_append, List.count_append] at h1 h2 ⊢
    omega

/-! ## time -/

theorem clock_step (t : Traffic) (m : Move) :
    (t.step m).1.now = t.now + m.pause ∧ (t.step m).1.patience = t.patience := by
  show (t.act m).1.now = _ ∧ (t.act m).1.patience = _
  cases m with
  | operate op => exact ⟨rfl, rfl⟩
  | answer c failure =>
    by_cases hc : c ∈ t.out
    · rw [act_answer hc]
      exact ⟨rfl, rfl⟩
    · rw [act_answer_of_notMem hc]
      exact ⟨rfl, rfl⟩
  | take =>
    cases he : t.ended with
    | nil =>
      rw [act_take_nil he]
      exact ⟨rfl, rfl⟩
    | cons d rest =>
      rw [act_take he]
      exact ⟨rfl, rfl⟩
  | wait ms => exact ⟨rfl, rfl⟩

theorem clock_run (t : Traffic) (ms : List Move) :
    (t.run ms).1.now = t.now + paused ms ∧ (t.run ms).1.patience = t.patience := by
  induction ms generalizing t with
  | nil => exact ⟨rfl, rfl⟩
  | cons m ms ih =>
    obtain ⟨h1, h2⟩ := t.clock_step m
    obtain ⟨h3, h4⟩ := ih (t.step m).1
    rw [h1, Nat.add_assoc] at h3
    exact ⟨h3, h4.trans h2⟩

theorem since_begun {t : Traffic} {m : Move} {c : PendingCall} (h : c ∈ (t.step m).2) :
    c.since = t.now := by
  replace h : c ∈ (t.act m).2 := h
  have ha := t.acts m
  generalize t.act m = r at ha h
  cases ha with
  | kills s b ho hc hs => rw [List.mem_singleton.mp h, hc]
  | launches s b ho hn hk hi hs => rw [List.mem_singleton.mp h, hn]
  | ends b f => cases h
  | takes s d rest => cases h
  | passes s now => cases h

theorem since_step {t : Traffic} (h : ∀ c ∈ t.out, c.since ≤ t.now) (m : Move) :
    ∀ c ∈ (t.step m).1.out, c.since ≤ (t.step m).1.now := by
  intro c hc
  have hm : t.now ≤ (t.step m).1.now := by
    rw [(t.clock_step m).1]
    exact Nat.le_add_right _ _
  rcases List.mem_append.mp ((t.out_step m).subset hc) with ho | hb
  · exact Nat.le_trans (h c ho) hm
  · rw [since_begun hb]
    exact hm

theorem out_run (t : Traffic) (ms : List Move) :
    (t.run ms).1.out.Sublist (t.out ++ (t.run ms).2) := by
  induction ms generalizing t with
  | nil => simp only [run_nil, List.append_nil, List.Sublist.refl]
  | cons m ms ih =>
    rw [run_cons, ← List.append_assoc]
    exact (ih (t.step m).1).trans ((t.out_step m).append_right _)

/-- once the longest time allowed is over without a new call, none is out -/
theorem out_of_time {s : Session} {patience : Nat} (pre post : List Move)
    (hb : (((new s patience).run pre).1.run post).2 = []) (hw : patience ≤ paused post) :
    (((new s patience).run pre).1.run post).1.out = [] := by
  let t := ((new s patience).run pre).1
  have hsince : ∀ c ∈ t.out, c.since ≤ t.now :=
    run_of_step (P := fun t => ∀ c ∈ t.out, c.since ≤ t.now) (fun _ m h => since_step h m)
      (fun _ hc => by cases hc) pre
  have hpat : t.patience = patience := ((new s patience).clock_run pre).2
  obtain ⟨htime, hkept⟩ := t.clock_run post
  have hover : ∀ c ∈ (t.run post).1.out, (t.run post).1.timeline.overdue c = false := by
    have h := overdue_run s patience (pre ++ post)
    rw [run_append] at h
    exact h
  refine List.eq_nil_iff_forall_not_mem.mpr fun c hc => ?_
  have ho : c ∈ t.out := by
    have h := (t.out_run post).subset hc
    rw [hb, List.append_nil] at h
    exact h
  have h1 := overdue_eq_false.mp (hover c hc)
  have h2 := hsince c ho
  omega

/-! ## rest -/

theorem atRest_of_unsettled {t : Traffic} (h : Accounted t) (ho : t.session.closed = false)
    (hu : t.unsettled = []) : t.AtRest := by
  have hc : t.session.power.phase.calls = [] := by
    refine List.eq_nil_iff_forall_not_mem.mpr fun k hk => ?_
    have hm := h.named ho k hk
    rw [hu] at hm
    cases hm
  have hp := Power.Phase.calls_eq_nil.mp hc
  exact ⟨hp, Power.Phase.action?_eq_none.mpr hp⟩

theorem unsettled_eq_nil {t : Traffic} : t.unsettled = [] ↔ t.out = [] ∧ t.ended = [] := by
  simp [unsettled]

theorem begun_take (t : Traffic) : (t.step .take).2 = [] := by
  show (t.act .take).2 = []
  cases he : t.ended with
  | nil => rw [act_take_nil he]
  | cons d rest => rw [act_take he]

theorem ended_take {t : Traffic} (h : t.out = []) : (t.step .take).1.ended = t.ended.tail := by
  show (t.act .take).1.ended ++ ((t.act .take).1.out.filter _).map _ = _
  cases he : t.ended with
  | nil =>
    rw [act_take_nil he, h, he]
    rfl
  | cons d rest =>
    rw [act_take he]
    show rest ++ (t.out.filter _).map _ = rest
    rw [h]
    exact List.append_nil _

/-- when no call is out, taking completions begins no call and shortens the queue -/
theorem ended_takes {t : Traffic} (h : t.out = []) (n : Nat) :
    (t.run (List.replicate n .take)).2 = [] ∧
      (t.run (List.replicate n .take)).1.ended = t.ended.drop n := by
  induction n generalizing t with
  | zero => exact ⟨rfl, rfl⟩
  | succ n ih =>
    have ho : (t.step .take).1.out = [] := by
      have hs := t.out_step .take
      rw [h, begun_take] at hs
      exact List.sublist_nil.mp hs
    obtain ⟨h1, h2⟩ := ih ho
    rw [List.replicate_succ, run_cons, begun_take, h1, h2, ended_take h]
    exact ⟨rfl, List.drop_tail⟩

/-- only the end closes a session -/
theorem closed_step (t : Traffic) (m : Move) :
    (t.step m).1.session.closed = (t.session.closed || m matches .operate .close) := by
  show (t.act m).1.session.closed = _
  cases m with
  | operate op =>
    show (t.session.feed (.operation op)).1.closed = _
    rw [Session.closed_feed]
    cases op <;> rfl
  | answer c failure =>
    by_cases hc : c ∈ t.out
    · rw [act_answer hc, Bool.or_false]
    · rw [act_answer_of_notMem hc, Bool.or_false]
  | take =>
    rw [Bool.or_false]
    cases he : t.ended with
    | nil => rw [act_take_nil he]
    | cons d rest =>
      obtain ⟨_, _, _, _, h⟩ := t.session.complete_frame d
      rw [act_take he]
      show (t.session.receive (.power d)).1.closed = _
      rw [h]
  | wait ms => exact (Bool.or_false _).symm

theorem closed_takes (t : Traffic) (n : Nat) :
    (t.run (List.replicate n .take)).1.session.closed = t.session.closed := by
  induction n generalizing t with
  | zero => rfl
  | succ n ih =>
    have h := ih (t.step .take).1
    rw [closed_step, Bool.or_false] at h
    exact h

/-- from anywhere: wait as long as a call may take, then take what has ended -/
theorem atRest_of_wait (o : Session.Opening) (patience : Nat) (ms : List Move) {n : Nat}
    (ho : ((new o.session patience).run ms).1.session.closed = false)
    (hn : ((new o.session patience).run ms).1.unsettled.length ≤ n) :
    (((new o.session patience).run ms).1.run (.wait patience :: List.replicate n .take)).1.AtRest := by
  let t := ((new o.session patience).run ms).1
  let u := (t.step (.wait patience)).1
  -- nothing is out after the wait, and the queue holds all that was unsettled
  have hu : u.out = [] := out_of_time ms [.wait patience] rfl (Nat.le_refl _)
  have hlen : u.ended.length = t.unsettled.length := by
    have h := (t.unsettled_step (.wait patience)).length_eq
    have hl : u.unsettled.length = u.ended.length := by
      unfold unsettled
      rw [hu]
      exact List.length_map _
    exact hl.symm.trans h.symm
  obtain ⟨hb, he⟩ := ended_takes hu n
  rw [run_cons]
  refine atRest_of_unsettled ?_ ?_ (unsettled_eq_nil.mpr ⟨?_, ?_⟩)
  · exact run_of_step (P := Accounted) (fun _ m h => accounted_step h m)
      (accounted_step (accounted_run o patience ms) (.wait patience)) _
  · exact (closed_takes u n).trans ((t.closed_step (.wait patience)).trans (by rw [ho]; rfl))
  · have h := u.out_run (List.replicate n .take)
    rw [hu, hb] at h
    exact List.sublist_nil.mp h
  · exact he.trans (List.drop_eq_nil_of_le (hlen ▸ hn))

/-- **The power machine does not get stuck.** In every run of an open session with its calls: each
call begun is settled once or still unsettled; what the phase names was begun and is unsettled; the
machine is at rest when nothing is unsettled; no call is out once the longest time allowed is over
since the last one was begun, and the machine is at rest as soon as all completions are taken; and
this can be had from anywhere. -/
theorem never_stuck (o : Session.Opening) (patience : Nat) (ms : List Move)
    (ho : ((new o.session patience).run ms).1.session.closed = false) :
    let after ms := ((new o.session patience).run ms).1
    let begun := ((new o.session patience).run ms).2
    (begun.map PendingCall.key).Perm
      ((new o.session patience).settled ms ++ (after ms).unsettled) ∧
    (∀ k ∈ (after ms).session.power.phase.calls,
      k ∈ (after ms).unsettled ∧ ∃ c ∈ begun, c.key = k) ∧
    ((after ms).unsettled = [] → (after ms).AtRest) ∧
    (∀ pre post, ms = pre ++ post → ((after pre).run post).2 = [] → patience ≤ paused post →
      (after ms).out = [] ∧ ((after ms).ended = [] → (after ms).AtRest)) ∧
    ∀ n, (after ms).unsettled.length ≤ n →
      ((after ms).run (.wait patience :: List.replicate n .take)).1.AtRest := by
  intro after begun
  have hacc : Accounted (after ms) := accounted_run o patience ms
  have hperm : (begun.map PendingCall.key).Perm
      ((new o.session patience).settled ms ++ (after ms).unsettled) := by
    have h := (new o.session patience).unsettled_run ms
    rw [show (new o.session patience).unsettled = [] from rfl, List.append_nil] at h
    exact h
  refine ⟨hperm, fun k hk => ?_, atRest_of_unsettled hacc ho, fun pre post hms hb hw => ?_,
    fun n hn => atRest_of_wait o patience ms ho hn⟩
  · have hu := hacc.named ho k hk
    refine ⟨hu, ?_⟩
    have hm : k ∈ begun.map PendingCall.key := hperm.mem_iff.mpr (List.mem_append_right _ hu)
    exact List.mem_map.mp hm
  · have hout : (after ms).out = [] := by
      show ((new o.session patience).run ms).1.out = []
      rw [hms, run_append]
      exact out_of_time pre post hb hw
    exact ⟨hout, fun he => atRest_of_unsettled hacc ho (unsettled_eq_nil.mpr ⟨hout, he⟩)⟩

/-- the kill on top of a stop fails: the stop is awaited again, and comes to rest in time -/
theorem never_stuck_kill_refused :
    let t := ((new (Session.Opening.plain .running .everything).session 30000).run
      [.operate (.request .stop), .operate (.request .stop), .answer ⟨2, .kill, 0⟩ (some "no"),
        .take]).1
    t.session.closed = false ∧ t.session.power.phase = .stopping 1 ∧ (1, .stop) ∈ t.unsettled ∧
      (t.run [.wait 30000, .take]).1.AtRest :=
  have h := never_stuck (.plain .running .everything) 30000
    [.operate (.request .stop), .operate (.request .stop), .answer ⟨2, .kill, 0⟩ (some "no"), .take]
    rfl
  ⟨rfl, by decide, (h.2.1 (1, .stop) (by decide)).1, h.2.2.2.2 1 (by decide)⟩

end Traffic

end ServerConsole

import ServerConsole.Proofs.Power.Runs

/-!
# Requests in a row

An operator may ask again and again before any call has ended. Nothing is called twice for that: an
action other than a kill is launched from the idle phase only, and leaves it; a stop on top of a stop is
one kill, and the escalation it leads to takes no more stops.

* `asked`, `Machine.made`   a list of requests as events, and the actions of the calls they begin;
* `Machine.answers`         each of these calls beside the request that it answers;
* `answer_cases`            the answers to one request;
* `Phase.launchesLeft`, `Phase.escalationsLeft`  how many launches and escalations a phase still allows;
* `countP_answers_le`       a step that keeps to such a budget makes a run that does;
* `no_conflicting_calls`    how many calls of each kind there are, whatever is asked for.
-/

namespace ServerConsole.Power

/-! ## definitions -/

/-- requests one after the other, each with the status shown -/
def asked (rs : List (PowerAction × Status)) : List (Event × Status) :=
  rs.map fun r => (.requested r.1, r.2)

/-- how many calls other than kills requests may still launch -/
def Phase.launchesLeft : Phase → Nat
  | .idle => 1
  | .starting _ | .stopping _ | .escalated _ _ | .restarting _ => 0

/-- how many stops may still become kills -/
def Phase.escalationsLeft : Phase → Nat
  | .idle | .stopping _ => 1
  | .starting _ | .escalated _ _ | .restarting _ => 0

theorem Phase.left_le_one (phase : Phase) :
    phase.launchesLeft ≤ 1 ∧ phase.escalationsLeft ≤ 1 := by
  cases phase <;> simp [launchesLeft, escalationsLeft]

theorem Phase.launchesLeft_of_ne {phase : Phase} (h : phase ≠ .idle) : phase.launchesLeft = 0 := by
  cases phase with
  | idle => exact absurd rfl h
  | starting _ | stopping _ | escalated _ _ | restarting _ => rfl

theorem Phase.amount_eq_kill {phase : Phase} {a : PowerAction} :
    phase.amount a = .kill ↔ a = .kill ∨ (a = .stop ∧ ∃ t, phase = .stopping t) := by
  cases a <;> cases phase <;> simp [amount]

namespace Machine

/-- the actions of the calls that requests begin -/
def made (m : Machine) (rs : List (PowerAction × Status)) : List PowerAction :=
  (begun (m.run (asked rs)).2).map Prod.snd

/-- the action asked for and the action of the call, for the calls that one request begins -/
def answer (m : Machine) (a : PowerAction) (status : Status) : List (PowerAction × PowerAction) :=
  (begun (m.request a status).2).map fun k => (a, k.2)

def answers (m : Machine) : List (PowerAction × Status) → List (PowerAction × PowerAction)
  | [] => []
  | (a, status) :: rs => m.answer a status ++ (m.request a status).1.answers rs

/-! ## one request -/

/-- a request is a kill, a stop on top of a stop, launches its action, or is refused -/
theorem answer_cases (m : Machine) (a : PowerAction) (status : Status) :
    (a = .kill ∧ m.answer a status = [(.kill, .kill)] ∧
      (m.request a status).1.phase = afterKill m.phase m.nextTicket) ∨
    (∃ t, a = .stop ∧ m.phase = .stopping t ∧ m.answer a status = [(.stop, .kill)] ∧
      (m.request a status).1.phase = .escalated t m.nextTicket) ∨
    (a ≠ .kill ∧ m.phase = .idle ∧ m.answer a status = [(a, a)] ∧
      (m.request a status).1.phase = launch a m.nextTicket) ∨
    (a ≠ .kill ∧ m.answer a status = [] ∧ (m.request a status).1 = m) := by
  unfold answer
  rcases m.request_cases a status with ⟨hk, h⟩ | ⟨hp, hl, h⟩ | ⟨hk, _, h⟩
  · rcases Phase.amount_eq_kill.mp hk with rfl | ⟨rfl, t, ht⟩
    · exact .inl ⟨rfl, by rw [h]; rfl, by rw [h]; rfl⟩
    · refine .inr (.inl ⟨t, rfl, ht, by rw [h]; rfl, ?_⟩)
      rw [h]
      show afterKill m.phase _ = _
      rw [ht]
      rfl
  · refine .inr (.inr (.inl ⟨ne_kill_of_launchable hl, hp, ?_, by rw [h]; rfl⟩))
    rw [h, begun_ahead]
    rfl
  · refine .inr (.inr (.inr ⟨fun ha => hk (Phase.amount_eq_kill.mpr (.inl ha)), ?_, by rw [h]⟩))
    rw [h]
    rfl

theorem made_eq (m : Machine) (rs : List (PowerAction × Status)) :
    m.made rs = (m.answers rs).map Prod.snd := by
  induction rs generalizing m with
  | nil => rfl
  | cons r rs ih =>
    obtain ⟨a, status⟩ := r
    have hrest : (begun ((m.request a status).1.run (asked rs)).2).map Prod.snd =
        ((m.request a status).1.answers rs).map Prod.snd := ih _
    show (begun (m.run ((.requested a, status) :: asked rs)).2).map Prod.snd =
      (m.answer a status ++ (m.request a status).1.answers rs).map Prod.snd
    rw [run_cons, begun_append, List.map_append, List.map_append, ← hrest]
    unfold answer
    rw [List.map_map]
    rfl

/-! ## many requests -/

/-- what a budget of the phase pays for, one request after the other, stays within it -/
theorem countP_answers_le {p : PowerAction × PowerAction → Bool} (budget : Phase → Nat)
    (pays : ∀ (m : Machine) (a : PowerAction) (status : Status),
      (m.answer a status).countP p + budget (m.request a status).1.phase ≤ budget m.phase)
    (m : Machine) (rs : List (PowerAction × Status)) :
    (m.answers rs).countP p ≤ budget m.phase := by
  induction rs generalizing m with
  | nil => exact Nat.zero_le _
  | cons r rs ih =>
    obtain ⟨a, status⟩ := r
    have hrest := ih (m.request a status).1
    have hpays := pays m a status
    show (m.answer a status ++ (m.request a status).1.answers rs).countP p ≤ _
    rw [List.countP_append]
    omega

theorem launchesLeft_afterKill (phase : Phase) (t : Ticket) :
    (afterKill phase t).launchesLeft = phase.launchesLeft := by
  cases phase <;> rfl

theorem escalationsLeft_afterKill (phase : Phase) (t : Ticket) :
    (afterKill phase t).escalationsLeft ≤ phase.escalationsLeft := by
  cases phase with
  | stopping _ => exact Nat.zero_le _
  | idle | starting _ | escalated _ _ | restarting _ => exact Nat.le_refl _

theorem left_launch {a : PowerAction} (h : a ≠ .kill) (t : Ticket) :
    (launch a t).launchesLeft = 0 ∧ (launch a t).escalationsLeft ≤ 1 := by
  cases a with
  | kill => exact absurd rfl h
  | stop => exact ⟨rfl, Nat.le_refl _⟩
  | start | restart => exact ⟨rfl, Nat.zero_le _⟩

/-- an action other than a kill is launched once, and from the idle phase only -/
theorem launches_le (m : Machine) (rs : List (PowerAction × Status)) :
    (m.answers rs).countP (·.2 ≠ .kill) ≤ m.phase.launchesLeft := by
  refine countP_answers_le Phase.launchesLeft (fun m a status => ?_) m rs
  rcases m.answer_cases a status with ⟨rfl, h, hn⟩ | ⟨t, rfl, hp, h, hn⟩ | ⟨hk, hp, h, hn⟩ | ⟨_, h, hn⟩
  · rw [h, hn, launchesLeft_afterKill]
    exact Nat.le_of_eq (Nat.zero_add _)
  · rw [h, hn, hp]
    exact Nat.le_refl _
  · rw [h, hn, hp, (left_launch hk _).1]
    exact List.countP_le_length
  · rw [h, hn]
    exact Nat.le_of_eq (Nat.zero_add _)

/-- a stop becomes a kill once, on top of a stop -/
theorem escalations_le (m : Machine) (rs : List (PowerAction × Status)) :
    (m.answers rs).count (.stop, .kill) ≤ m.phase.escalationsLeft := by
  refine countP_answers_le Phase.escalationsLeft (fun m a status => ?_) m rs
  rcases m.answer_cases a status with ⟨rfl, h, hn⟩ | ⟨t, rfl, hp, h, hn⟩ | ⟨hk, hp, h, hn⟩ | ⟨_, h, hn⟩
  · rw [h, hn]
    exact (Nat.zero_add _).trans_le (escalationsLeft_afterKill _ _)
  · rw [h, hn, hp]
    exact Nat.le_refl _
  · have hne : ((a, a) == (PowerAction.stop, PowerAction.kill)) = false :=
      beq_false_of_ne fun he => hk (congrArg Prod.snd he)
    rw [h, hn, hp, List.countP_cons, List.countP_nil, hne]
    exact (Nat.zero_add _).trans_le (left_launch hk _).2
  · rw [h, hn]
    exact Nat.le_of_eq (Nat.zero_add _)

/-- each kill that is asked for is called -/
theorem count_kill_kill (m : Machine) (rs : List (PowerAction × Status)) :
    (m.answers rs).count (.kill, .kill) = rs.countP (·.1 = .kill) := by
  induction rs generalizing m with
  | nil => rfl
  | cons r rs ih =>
    obtain ⟨a, status⟩ := r
    show (m.answer a status ++ (m.request a status).1.answers rs).count _ = _
    rw [List.count_append, ih, List.countP_cons, Nat.add_comm]
    rcases m.answer_cases a status with ⟨rfl, h, _⟩ | ⟨t, rfl, _, h, _⟩ | ⟨hk, _, h, _⟩ | ⟨hk, h, _⟩
    · rw [h]
      rfl
    · rw [h]
      rfl
    · rw [h]
      simp [hk]
    · rw [h]
      simp [hk]

/-- a kill that is called was asked for, or a stop was -/
theorem count_kill (m : Machine) (rs : List (PowerAction × Status)) :
    (m.made rs).count .kill =
      (m.answers rs).count (.kill, .kill) + (m.answers rs).count (.stop, .kill) := by
  rw [made_eq]
  induction rs generalizing m with
  | nil => rfl
  | cons r rs ih =>
    obtain ⟨a, status⟩ := r
    have hrest := ih (m.request a status).1
    have hone : ((m.answer a status).map Prod.snd).count .kill =
        (m.answer a status).count (.kill, .kill) + (m.answer a status).count (.stop, .kill) := by
      rcases m.answer_cases a status with ⟨rfl, h, _⟩ | ⟨t, rfl, _, h, _⟩ | ⟨hk, _, h, _⟩ | ⟨_, h, _⟩
      · rw [h]
        rfl
      · rw [h]
        rfl
      · rw [h]
        simp [hk]
      · rw [h]
        rfl
    show ((m.answer a status ++ (m.request a status).1.answers rs).map Prod.snd).count _ =
      (m.answer a status ++ (m.request a status).1.answers rs).count _ +
        (m.answer a status ++ (m.request a status).1.answers rs).count _
    rw [List.map_append, List.count_append, List.count_append, List.count_append]
    omega

/-! ## one action over and over -/

theorem made_cons (m : Machine) (a : PowerAction) (status : Status)
    (rs : List (PowerAction × Status)) :
    m.made ((a, status) :: rs) = (m.answer a status).map Prod.snd ++ (m.request a status).1.made rs := by
  rw [made_eq, made_eq, answers, List.map_append]

/-- what is refused in a phase is refused again, whatever status is shown -/
theorem made_refused {m : Machine} {a : PowerAction} (hp : m.phase ≠ .idle)
    (hk : m.phase.amount a ≠ .kill) (statuses : List Status) :
    m.made (statuses.map (a, ·)) = [] := by
  induction statuses with
  | nil => rfl
  | cons status statuses ih =>
    have hr : m.request a status = (m, []) := m.request_refused a status hk fun h => hp h.1
    show m.made ((a, status) :: statuses.map (a, ·)) = []
    rw [made_cons, answer, hr, ih]
    rfl

theorem made_stops {m : Machine} (hp : m.phase = .idle) {statuses : List Status}
    (hs : statuses ≠ []) : m.made ((.stop, .running) :: statuses.map (.stop, ·)) = [.stop, .kill] := by
  obtain ⟨status, statuses, rfl⟩ := List.exists_cons_of_ne_nil hs
  obtain ⟨phase, next⟩ := m
  subst hp
  show Machine.made _ ((.stop, .running) :: (.stop, status) :: statuses.map (.stop, ·)) = _
  rw [made_cons, made_cons]
  -- the second stop leads to the escalation, where stops are refused
  have hrest : (⟨.escalated next (next + 1), next + 1 + 1⟩ : Machine).made
      (statuses.map (PowerAction.stop, ·)) = [] :=
    made_refused (fun h => by cases h) (fun h => by cases h) statuses
  exact congrArg (fun l => [PowerAction.stop] ++ ([PowerAction.kill] ++ l)) hrest

theorem made_starts {m : Machine} (hp : m.phase = .idle) (statuses : List Status) :
    m.made ((.start, .stopped) :: statuses.map (.start, ·)) = [.start] := by
  obtain ⟨phase, next⟩ := m
  subst hp
  rw [made_cons]
  have hrest : (⟨.starting next, next + 1⟩ : Machine).made (statuses.map (PowerAction.start, ·)) = [] :=
    made_refused (fun h => by cases h) (fun h => by cases h) statuses
  exact congrArg ([PowerAction.start] ++ ·) hrest

/-- **Requests in a row make no conflicting calls.** From any machine, for any requests with any
statuses shown and no completion in between: there is at most one call of a start, stop or restart,
and none when such an action is under way at the beginning; each kill that is asked for is called, and
at most one kill more, which a stop asked for. So two stops or more of a running server are a stop and a
kill, and starts of a stopped one are one start, whatever statuses are shown after the first. -/
theorem no_conflicting_calls (m : Machine) (rs : List (PowerAction × Status)) :
    m.made rs = (m.answers rs).map Prod.snd ∧
    ((m.made rs).countP (· ≠ .kill) ≤ 1 ∧
      (m.phase.action? ≠ none → (m.made rs).countP (· ≠ .kill) = 0)) ∧
    ((m.answers rs).count (.kill, .kill) = rs.countP (·.1 = .kill) ∧
      (m.answers rs).count (.stop, .kill) ≤ 1 ∧
      (m.made rs).count .kill = rs.countP (·.1 = .kill) + (m.answers rs).count (.stop, .kill)) ∧
    (m.phase = .idle → ∀ statuses : List Status,
      (statuses ≠ [] → m.made ((.stop, .running) :: statuses.map (.stop, ·)) = [.stop, .kill]) ∧
      m.made ((.start, .stopped) :: statuses.map (.start, ·)) = [.start]) := by
  have hlaunch : (m.made rs).countP (· ≠ .kill) ≤ m.phase.launchesLeft := by
    rw [made_eq, List.countP_map]
    exact m.launches_le rs
  refine ⟨m.made_eq rs, ⟨?_, fun hb => ?_⟩, ⟨m.count_kill_kill rs, ?_, ?_⟩, fun hp statuses => ?_⟩
  · exact hlaunch.trans m.phase.left_le_one.1
  · have hp : m.phase ≠ .idle := fun hp => hb (Phase.action?_eq_none.mpr hp)
    rw [Phase.launchesLeft_of_ne hp] at hlaunch
    exact Nat.le_zero.mp hlaunch
  · exact (m.escalations_le rs).trans m.phase.left_le_one.2
  · rw [m.count_kill rs, m.count_kill_kill rs]
  · exact ⟨made_stops hp, made_starts hp statuses⟩

/-- kills, stops and a start while a stop is under way, and three stops of a server that is shown as
stopped after the first -/
theorem no_conflicting_calls_stopping :
    let m : Machine := ⟨.stopping 1, 2⟩
    let rs : List (PowerAction × Status) := [(.kill, .running), (.stop, .running), (.start, .stopped),
      (.kill, .failed), (.stop, .running)]
    m.phase.action? ≠ none ∧ (m.made rs).countP (· ≠ .kill) = 0 ∧ (m.made rs).count .kill = 2 ∧
    initial.phase = .idle ∧ [Status.stopped, .stopped] ≠ [] ∧
      initial.made [(.stop, .running), (.stop, .stopped), (.stop, .stopped)] = [.stop, .kill] := by
  intro m rs
  obtain ⟨_, ⟨_, hn⟩, ⟨_, _, hk⟩, _⟩ := no_conflicting_calls m rs
  obtain ⟨_, _, _, hi⟩ := no_conflicting_calls initial []
  exact ⟨by decide, hn (by decide), hk, rfl, by decide, (hi rfl [.stopped, .stopped]).1 (by decide)⟩

end Machine

end ServerConsole.Power

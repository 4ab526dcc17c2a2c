import ServerConsole.Power.Machine

/-!
# What one step of the power machine can do

* `Phase.amount`     what a request amounts to: a stop on top of a stop is a kill;
* `launchable`       the statuses in which a start, stop or restart is taken up;
* `launch`, `ahead`  the phase such an action leads to, and the effects ahead of its call;
* `request_cases`    a request kills, launches an action from the idle phase, or does nothing;
* `complete_cases`   a completion is one of a kill, the one the phase awaits, or without effect;
* `Phase.calls`      the calls a phase names: the awaited one, and the kill of an escalation;
* `Phase.takes`      the completions that are taken: those of kills, and the one the phase awaits;
* `effects_complete`  what a completion has done beside the phase.

Later proofs use these and the lemmas on `awaited?` and `kill?`, and do not open `request` and
`complete` again.
-/

namespace ServerConsole.Power

/-! ## phases -/

/-- the kill that ends an escalation -/
def Phase.kill? : Phase → Option Ticket
  | .escalated _ kill => some kill
  | _ => none

/-- the calls a phase names -/
def Phase.calls (phase : Phase) : List (Ticket × PowerAction) :=
  phase.awaited?.toList ++ (phase.kill?.map fun t => (t, PowerAction.kill)).toList

theorem Phase.awaited?_eq_none {phase : Phase} : phase.awaited? = none ↔ phase = .idle := by
  cases phase <;> simp [awaited?]

theorem Phase.action?_eq_none {phase : Phase} : phase.action? = none ↔ phase = .idle := by
  cases phase <;> simp [action?]

theorem Phase.calls_eq_nil {phase : Phase} : phase.calls = [] ↔ phase = .idle := by
  cases phase <;> simp [calls, awaited?, kill?]

/-- no phase awaits a kill -/
theorem Phase.ne_kill_of_awaited {phase : Phase} {t : Ticket} {a : PowerAction}
    (h : phase.awaited? = some (t, a)) : a ≠ .kill := by
  rintro rfl
  cases phase <;> simp [awaited?] at h

theorem Phase.mem_calls {phase : Phase} {t : Ticket} {a : PowerAction} :
    (t, a) ∈ phase.calls ↔ phase.awaited? = some (t, a) ∨ (a = .kill ∧ phase.kill? = some t) := by
  cases phase <;> simp [calls, awaited?, kill?, eq_comm, and_comm]

/-- a completion is taken when it is one of a kill, any kill, or the one the phase awaits -/
def Phase.takes (phase : Phase) (ticket : Ticket) (action : PowerAction) : Bool :=
  action == .kill || phase.awaited? == some (ticket, action)

theorem Phase.takes_iff {phase : Phase} {t : Ticket} {a : PowerAction} :
    phase.takes t a = true ↔ a = .kill ∨ phase.awaited? = some (t, a) := by
  simp [takes]

/-- the status that a call of an action leads to -/
def attained : PowerAction → Status
  | .start | .restart => .running
  | .stop | .kill => .stopped

/-! ## requests -/

/-- what a request amounts to -/
def Phase.amount (phase : Phase) (action : PowerAction) : PowerAction :=
  match action, phase with
  | .stop, .stopping _ => .kill
  | _, _ => action

theorem Phase.amount_idle (action : PowerAction) : Phase.idle.amount action = action := by
  cases action <;> rfl

/-- a stop on top of a stop is a kill, and nothing else is another action than it says -/
theorem Phase.amount_cases (phase : Phase) (action : PowerAction) :
    ((action = .stop ∧ ∃ t, phase = .stopping t) ∧ phase.amount action = .kill) ∨
    (¬ (action = .stop ∧ ∃ t, phase = .stopping t) ∧ phase.amount action = action) := by
  cases action <;> cases phase <;> simp [amount]

/-- the statuses in which an action other than a kill is taken up -/
def launchable (action : PowerAction) (status : Status) : Bool :=
  match action with
  | .start => status == .stopped || status == .failed
  | .stop | .restart => status == .running
  | .kill => false

/-- the phase of an action that has been taken up -/
def launch (action : PowerAction) (ticket : Ticket) : Phase :=
  match action with
  | .start => .starting ticket
  | .stop => .stopping ticket
  | .restart => .restarting ticket
  | .kill => .idle

/-- the effects ahead of the call -/
def ahead : PowerAction → List Effect
  | .start => [.resetStats]
  | .restart => [.markStatsUnknown]
  | .stop | .kill => []

theorem awaited?_launch {a : PowerAction} (h : a ≠ .kill) (t : Ticket) :
    (launch a t).awaited? = some (t, a) := by
  cases a with
  | kill => exact absurd rfl h
  | start | stop | restart => rfl

theorem calls_launch {a : PowerAction} (h : a ≠ .kill) (t : Ticket) :
    (launch a t).calls = [(t, a)] := by
  cases a with
  | kill => exact absurd rfl h
  | start | stop | restart => rfl

theorem ne_kill_of_launchable {a : PowerAction} {status : Status} (h : launchable a status = true) :
    a ≠ .kill := by
  rintro rfl
  cases h

namespace Machine

theorem request_kill (m : Machine) (a : PowerAction) (status : Status)
    (h : m.phase.amount a = .kill) :
    m.request a status = (m.issue (afterKill m.phase), [.dispatch m.nextTicket .kill]) := by
  obtain ⟨phase, next⟩ := m
  cases a with
  | kill => rfl
  | start => cases h
  | restart => cases h
  | stop =>
    cases phase with
    | stopping t => rfl
    | idle | starting _ | escalated _ _ | restarting _ => cases h

theorem request_launch (m : Machine) (a : PowerAction) (status : Status)
    (hp : m.phase = .idle) (h : launchable a status = true) :
    m.request a status = (m.issue (launch a), ahead a ++ [.dispatch m.nextTicket a]) := by
  obtain ⟨phase, next⟩ := m
  subst hp
  cases a with
  | kill => cases h
  | start =>
    have hs : status = .stopped ∨ status = .failed := by simpa [launchable] using h
    exact if_pos hs
  | stop =>
    have hs : status = .running := by simpa [launchable] using h
    exact if_pos hs
  | restart =>
    have hs : status = .running := by simpa [launchable] using h
    exact if_pos hs

theorem request_refused (m : Machine) (a : PowerAction) (status : Status)
    (hk : m.phase.amount a ≠ .kill) (h : ¬ (m.phase = .idle ∧ launchable a status = true)) :
    m.request a status = (m, []) := by
  obtain ⟨phase, next⟩ := m
  cases phase with
  | idle =>
    have hl : launchable a status = false := by simpa using h
    cases a with
    | kill => exact absurd rfl hk
    | start =>
      have hs : ¬ (status = .stopped ∨ status = .failed) := by simpa [launchable] using hl
      exact if_neg hs
    | stop | restart =>
      have hs : ¬ status = .running := by simpa [launchable] using hl
      exact if_neg hs
  | stopping t =>
    cases a with
    | kill | stop => exact absurd rfl hk
    | start | restart => rfl
  | starting _ | escalated _ _ | restarting _ =>
    cases a with
    | kill => exact absurd rfl hk
    | start | stop | restart => rfl

/-- everything a request can do -/
theorem request_cases (m : Machine) (a : PowerAction) (status : Status) :
    (m.phase.amount a = .kill ∧
      m.request a status = (m.issue (afterKill m.phase), [.dispatch m.nextTicket .kill])) ∨
    (m.phase = .idle ∧ launchable a status = true ∧
      m.request a status = (m.issue (launch a), ahead a ++ [.dispatch m.nextTicket a])) ∨
    (m.phase.amount a ≠ .kill ∧ ¬ (m.phase = .idle ∧ launchable a status = true) ∧
      m.request a status = (m, [])) := by
  by_cases hk : m.phase.amount a = .kill
  · exact .inl ⟨hk, m.request_kill a status hk⟩
  · by_cases hl : m.phase = .idle ∧ launchable a status = true
    · exact .inr (.inl ⟨hl.1, hl.2, m.request_launch a status hl.1 hl.2⟩)
    · exact .inr (.inr ⟨hk, hl, m.request_refused a status hk hl⟩)

theorem awaited?_afterKill (phase : Phase) (t : Ticket) :
    (afterKill phase t).awaited? = phase.awaited? := by
  cases phase <;> rfl

theorem kill?_afterKill {phase : Phase} {t u : Ticket} (h : (afterKill phase t).kill? = some u) :
    u = t := by
  cases phase with
  | stopping _ | escalated _ _ => exact (Option.some.inj h).symm
  | idle | starting _ | restarting _ => cases h

theorem calls_afterKill {phase : Phase} {t : Ticket} {k : Ticket × PowerAction}
    (h : k ∈ (afterKill phase t).calls) : k ∈ phase.calls ∨ k = (t, .kill) := by
  obtain ⟨u, a⟩ := k
  rw [Phase.mem_calls, awaited?_afterKill] at h
  rcases h with h | ⟨rfl, h⟩
  · exact .inl (Phase.mem_calls.mpr (.inl h))
  · exact .inr (by rw [kill?_afterKill h])

/-! ## completions -/

/-- everything a completion can do -/
theorem complete_cases (m : Machine) (t : Ticket) (a : PowerAction) (f : Outcome) :
    (a = .kill ∧
      m.complete t a f = ({ m with phase := phaseAfterKill m.phase t f }, stopped f)) ∨
    (m.phase.awaited? = some (t, a) ∧
      m.complete t a f = ({ m with phase := .idle }, finished a f)) ∨
    (a ≠ .kill ∧ m.phase.awaited? ≠ some (t, a) ∧ m.complete t a f = (m, [])) := by
  by_cases hk : a = .kill
  · exact .inl ⟨hk, by simp [complete, hk]⟩
  · by_cases hw : m.phase.awaited? = some (t, a)
    · exact .inr (.inl ⟨hw, by simp [complete, hk, hw]⟩)
    · exact .inr (.inr ⟨hk, hw, by simp [complete, hk, hw]⟩)

/-- the effects of a completion that is taken -/
def told (a : PowerAction) : Outcome → List Effect
  | some reason => [.logError reason]
  | none => .setStatus (attained a) :: if attained a = .stopped then [.resetStats] else []

theorem stopped_eq_told (f : Outcome) : stopped f = told .kill f := by
  cases f <;> rfl

theorem finished_eq_told {a : PowerAction} (h : a ≠ .kill) (f : Outcome) :
    finished a f = told a f := by
  cases a with
  | kill => exact absurd rfl h
  | start | stop | restart => cases f <;> rfl

theorem effects_complete (m : Machine) (t : Ticket) (a : PowerAction) (f : Outcome) :
    (m.complete t a f).2 = if m.phase.takes t a then told a f else [] := by
  rcases m.complete_cases t a f with ⟨rfl, h⟩ | ⟨hw, h⟩ | ⟨hk, hw, h⟩
  · rw [h, if_pos (Phase.takes_iff.mpr (.inl rfl))]
    exact stopped_eq_told f
  · rw [h, if_pos (Phase.takes_iff.mpr (.inr hw))]
    exact finished_eq_told (Phase.ne_kill_of_awaited hw) f
  · rw [h, if_neg fun ht => (Phase.takes_iff.mp ht).elim hk hw]

theorem awaited?_phaseAfterKill {phase : Phase} {t : Ticket} {f : Outcome}
    {k : Ticket × PowerAction} (h : (phaseAfterKill phase t f).awaited? = some k) :
    phase.awaited? = some k := by
  cases phase with
  | escalated s u =>
    simp only [phaseAfterKill] at h
    split at h
    · split at h
      · cases h
      · exact h
    · exact h
  | idle | starting _ | stopping _ | restarting _ => exact h

/-- the kill still named after a kill has finished is a different one -/
theorem kill?_phaseAfterKill {phase : Phase} {t u : Ticket} {f : Outcome}
    (h : (phaseAfterKill phase t f).kill? = some u) : phase.kill? = some u ∧ u ≠ t := by
  cases phase with
  | escalated s v =>
    simp only [phaseAfterKill] at h
    split at h
    · split at h <;> cases h
    · next hv =>
      have e : v = u := Option.some.inj h
      exact ⟨congrArg some e, fun hu => hv (e.trans hu)⟩
  | idle | starting _ | stopping _ | restarting _ => cases h

/-- a kill that the phase does not name leaves the phase alone -/
theorem phaseAfterKill_of_ne {phase : Phase} {t : Ticket} (h : phase.kill? ≠ some t) (f : Outcome) :
    phaseAfterKill phase t f = phase := by
  cases phase with
  | escalated s u => exact if_neg fun hu => h (congrArg some hu)
  | idle | starting _ | stopping _ | restarting _ => rfl

/-- what a phase names after a completion it named before, and it was not the call completed -/
theorem calls_complete {m : Machine} {t : Ticket} {a : PowerAction} {f : Outcome}
    {k : Ticket × PowerAction} (h : k ∈ (m.complete t a f).1.phase.calls) :
    k ∈ m.phase.calls ∧ k ≠ (t, a) := by
  obtain ⟨u, b⟩ := k
  rcases m.complete_cases t a f with ⟨rfl, hc⟩ | ⟨_, hc⟩ | ⟨hk, hw, hc⟩
  · rw [hc] at h
    rcases Phase.mem_calls.mp h with ha | ⟨rfl, hu⟩
    · have hw := awaited?_phaseAfterKill ha
      refine ⟨Phase.mem_calls.mpr (.inl hw), fun e => ?_⟩
      exact Phase.ne_kill_of_awaited hw (congrArg Prod.snd e)
    · obtain ⟨h1, h2⟩ := kill?_phaseAfterKill hu
      exact ⟨Phase.mem_calls.mpr (.inr ⟨rfl, h1⟩), fun e => h2 (congrArg Prod.fst e)⟩
  · rw [hc] at h
    cases h
  · rw [hc] at h
    refine ⟨h, fun e => ?_⟩
    rw [e] at h
    rcases Phase.mem_calls.mp h with ha | ⟨hb, _⟩
    · exact hw ha
    · exact hk hb

/-- a kill takes the awaited call away only by ending an escalation with success -/
theorem awaited?_lost {phase : Phase} {t : Ticket} {f : Outcome} {k : Ticket × PowerAction}
    (h : phase.awaited? = some k) (hl : (phaseAfterKill phase t f).awaited? ≠ some k) :
    ∃ s, phase = .escalated s t ∧ k = (s, .stop) ∧ f = none := by
  cases phase with
  | escalated s u =>
    have hk : k = (s, .stop) := (Option.some.inj h).symm
    by_cases hu : u = t
    · subst hu
      cases f with
      | none => exact ⟨s, rfl, hk, rfl⟩
      | some reason => exact absurd h (by simpa [phaseAfterKill, Phase.awaited?] using hl)
    · exact absurd h (by simpa [phaseAfterKill, hu] using hl)
  | idle | starting _ | stopping _ | restarting _ => exact absurd h hl

end Machine

end ServerConsole.Power

import ServerConsole.Proofs.Power.Runs
import ServerConsole.Proofs.Session.Run

/-!
# What a request does, and what the view says it does

The view shows the status, the action under way and whether it escalates; the machine decides by its
whole phase. The two agree in every state.

* `begun`           the calls among the effects of a run;
* `told?`, `told`   what an input, and a list of inputs, tell the power machine;
* `power_run`       in a run of a session the power machine runs on what it is told, and begins the
                    same calls;
* `tickets_opened`  the tickets of a session follow one another from one on;
* `allows_iff`      the view allows what kills and what is launched;
* `acts_iff_allowed`  a request begins a call if and only if the view allows it.
-/

namespace ServerConsole

/-- the view allows an action when it amounts to a kill or would be launched -/
theorem Power.Machine.allows_iff (m : Machine) (status : Status) (a : PowerAction) :
    (m.view status).allows a = true ↔
      m.phase.amount a = .kill ∨ (m.phase = .idle ∧ launchable a status = true) := by
  obtain ⟨phase, next⟩ := m
  cases a <;> cases phase <;>
    simp [view, View.allows, Phase.action?, Phase.isEscalating, Phase.amount, launchable]

namespace Session

/-! ## the power machine in a run -/

/-- the call that an effect begins -/
def Effect.call? : Effect → Option (Power.Ticket × PowerAction)
  | .call ticket action => some (ticket, action)
  | .queue _ => none

/-- the calls that a list of effects begins -/
def begun (es : List Effect) : List (Power.Ticket × PowerAction) := es.filterMap Effect.call?

/-- what an input tells the power machine: requests that are permitted, and completions, as long as
the session is open -/
def told? (s : Session) : Input → Option (Power.Event × Status)
  | .operation (.request a) =>
    if !s.closed && s.can (s.amounts a).permission then some (.requested a, s.status) else none
  | .completion c =>
    if s.closed then none else some (.completed c.ticket c.action c.failure, s.status)
  | .operation _ => none

def told (s : Session) : List Input → List (Power.Event × Status)
  | [] => []
  | i :: is => (s.told? i).toList ++ (s.feed i).1.told is

theorem begun_append (a b : List Effect) : begun (a ++ b) = begun a ++ begun b :=
  List.filterMap_append

theorem begun_callOf (es : List Power.Effect) : begun (es.filterMap callOf?) = Power.begun es := by
  unfold begun Power.begun
  rw [List.filterMap_filterMap]
  refine List.filterMap_congr fun e _ => ?_
  cases e <;> rfl

theorem begun_queue {es : List Effect} (h : ∀ e ∈ es, ∃ c, e = Effect.queue c) : begun es = [] := by
  refine List.filterMap_eq_nil_iff.mpr fun e he => ?_
  obtain ⟨c, rfl⟩ := h e he
  rfl

/-- a step of the power machine, seen from the session -/
theorem power_stepPower (s : Session) (e : Power.Event) :
    (s.stepPower e).1.power = (s.power.run [(e, s.status)]).1 ∧
    begun (s.stepPower e).2 = Power.begun (s.power.run [(e, s.status)]).2 := by
  rw [stepPower_eq, Power.Machine.run_cons, Power.Machine.run_nil, List.append_nil]
  exact ⟨rfl, begun_callOf _⟩

theorem power_request (s : Session) (a : PowerAction) :
    (s.request a).session.power = (s.power.run (s.told? (.operation (.request a))).toList).1 ∧
    begun (s.request a).effects =
      Power.begun (s.power.run (s.told? (.operation (.request a))).toList).2 := by
  by_cases hc : s.closed = true
  · have ht : s.told? (.operation (.request a)) = none := by simp [told?, hc]
    rw [request_of_closed hc, ht]
    exact ⟨rfl, rfl⟩
  · have ho : s.closed = false := eq_false_of_ne_true hc
    by_cases hp : s.can (s.amounts a).permission = true
    · have ht : s.told? (.operation (.request a)) = some (.requested a, s.status) := by
        simp [told?, ho, hp]
      rw [request_of_can ho hp, ht]
      exact s.power_stepPower (.requested a)
    · have ht : s.told? (.operation (.request a)) = none := by simp [told?, hp]
      rw [request_of_cannot ho (eq_false_of_ne_true hp), ht]
      exact ⟨rfl, rfl⟩

theorem power_feed (s : Session) (i : Input) :
    (s.feed i).1.power = (s.power.run (s.told? i).toList).1 ∧
    begun (s.feed i).2 = Power.begun (s.power.run (s.told? i).toList).2 := by
  cases i with
  | completion c =>
    show (s.receive (.power c)).1.power = _ ∧ begun (s.receive (.power c)).2 = _
    by_cases hc : s.closed = true
    · have ht : s.told? (.completion c) = none := if_pos hc
      rw [receive_of_closed hc, ht]
      exact ⟨rfl, rfl⟩
    · have ht : s.told? (.completion c) = some (_, s.status) := if_neg hc
      rw [receive_power_of_open (eq_false_of_ne_true hc), ht]
      exact s.power_stepPower _
  | operation op =>
    by_cases hr : ∃ a, op = .request a
    · obtain ⟨a, rfl⟩ := hr
      exact s.power_request a
    · have ht : s.told? (.operation op) = none := by
        cases op with
        | request a => exact absurd ⟨a, rfl⟩ hr
        | submit _ | revisit _ | hear _ | detach | relabel _ | close => rfl
      rw [ht]
      rcases s.perform_cases op with ⟨a, ha, _⟩ | ⟨a, ha, _⟩ | ⟨hm, he⟩
      · exact absurd ⟨a, ha⟩ hr
      · exact absurd ⟨a, ha⟩ hr
      · exact ⟨hm, begun_queue he⟩

/-- the machine of a session runs on what it is told, and the calls of the run are its own -/
theorem power_run (s : Session) (is : List Input) :
    (s.run is).1.power = (s.power.run (s.told is)).1 ∧
    begun (s.run is).2 = Power.begun (s.power.run (s.told is)).2 := by
  induction is generalizing s with
  | nil => exact ⟨rfl, rfl⟩
  | cons i is ih =>
    obtain ⟨hm, hb⟩ := s.power_feed i
    obtain ⟨hms, hbs⟩ := ih (s.feed i).1
    rw [hm] at hms hbs
    rw [run_cons, begun_append, told, Power.Machine.run_append, Power.begun_append, hb, hbs]
    exact ⟨hms, rfl⟩

/-- the tickets of the calls of a session follow one another from one on -/
theorem tickets_opened (o : Opening) (is : List Input) :
    let calls := begun (o.session.run is).2
    calls.map Prod.fst = Power.ticketsFrom 1 calls.length ∧
    (o.session.run is).1.power.nextTicket = 1 + .ofNat calls.length := by
  intro calls
  obtain ⟨_, _, _, hf⟩ := o.session_frame
  have hi : o.session.power = .initial := by rw [hf]; rfl
  obtain ⟨hm, hb⟩ := o.session.power_run is
  have hcalls : calls = _ := hb
  rw [hm, hcalls, hi]
  exact Power.Machine.initial.tickets_run _

/-! ## one request -/

/-- a request that the view does not allow is answered, and changes nothing at all -/
theorem request_of_refused {s : Session} (ho : s.closed = false) {a : PowerAction}
    (hc : s.can (s.amounts a).permission = true) (h : s.powerView.allows a = false) :
    s.request a = ⟨s, [], .ok ()⟩ := by
  have hn : ¬ (s.power.phase.amount a = .kill ∨
      (s.power.phase = .idle ∧ Power.launchable a s.status = true)) := fun hp => by
    have ht : s.powerView.allows a = true := (s.power.allows_iff s.status a).mpr hp
    rw [h] at ht
    cases ht
  obtain ⟨hk, hl⟩ := not_or.mp hn
  have hr : s.power.step (.requested a) s.status = (s.power, []) :=
    s.power.request_refused a s.status hk hl
  rw [request_of_can ho hc, stepPower_eq, hr]
  rfl

/-- a request that the view allows begins one call, with the next ticket -/
theorem request_of_allowed {s : Session} (ho : s.closed = false) {a : PowerAction}
    (hc : s.can (s.amounts a).permission = true) (h : s.powerView.allows a = true) :
    (s.request a).effects = [.call s.power.nextTicket (s.power.phase.amount a)] ∧
    (s.request a).result = .ok () := by
  rw [request_of_can ho hc, stepPower_eq]
  refine ⟨?_, rfl⟩
  show ((s.power.request a s.status).2).filterMap callOf? = _
  rcases (s.power.allows_iff s.status a).mp h with hk | ⟨hp, hl⟩
  · rw [s.power.request_kill a s.status hk, hk]
    rfl
  · rw [s.power.request_launch a s.status hp hl, hp, Power.Phase.amount_idle, List.filterMap_append,
      filterMap_ahead]
    rfl

/-- nothing but kills is called for a server that is shown as suspended -/
theorem kill_of_suspended {s : Session} (h : s.status = .suspended) {i : Input} {t : Power.Ticket}
    {b : PowerAction} (hm : Effect.call t b ∈ (s.feed i).2) : b = .kill := by
  cases i with
  | completion c =>
    obtain ⟨_, _, _, _, hf⟩ := s.complete_frame c
    replace hm : Effect.call t b ∈ (s.receive (.power c)).2 := hm
    rw [hf] at hm
    cases hm
  | operation op =>
    replace hm : Effect.call t b ∈ (s.perform op).2 := hm
    rcases s.perform_cases op with ⟨_, _, _, _, _, he⟩ | ⟨a, _, _, _, hl, _, _⟩ | ⟨_, he⟩
    · rw [he] at hm
      cases List.mem_singleton.mp hm
      rfl
    · rw [h] at hl
      cases a <;> cases hl
    · obtain ⟨c, hq⟩ := he _ hm
      cases hq

/-! ## every run -/

/-- **A request acts exactly when the view allows it.** In every run, as long as the session is open
and every power action is permitted: a request begins a call if and only if the view allows the
action. Then it begins exactly one, a kill for a stop on top of a stop and else the action asked for,
with the next ticket, which is none of the tickets of the last 2^64 - 1 calls. What the view does not
allow changes nothing. And in every session that shows its server as suspended no input whatever leads
to the call of a start, stop or restart. -/
theorem acts_iff_allowed (o : Opening) (is : List Input) :
    let s := (o.session.run is).1
    let calls := begun (o.session.run is).2
    (s.closed = false → (∀ b : PowerAction, s.can b.permission = true) → ∀ a,
      ((∃ t b, Effect.call t b ∈ (s.request a).effects) ↔ s.powerView.allows a = true) ∧
      (s.powerView.allows a = true → ∃ t b,
        (s.request a).effects = [.call t b] ∧ (s.request a).result = .ok () ∧
        (((a = .stop ∧ ∃ u, s.power.phase = .stopping u) ∧ b = .kill) ∨
          (¬ (a = .stop ∧ ∃ u, s.power.phase = .stopping u) ∧ b = a)) ∧
        t = 1 + .ofNat calls.length ∧ t ∉ (calls.map Prod.fst).rtake (2 ^ 64 - 1)) ∧
      (s.powerView.allows a = false → s.request a = ⟨s, [], .ok ()⟩)) ∧
    (s.status = .suspended → ∀ i t b, Effect.call t b ∈ (s.feed i).2 → b = .kill) := by
  intro s calls
  refine ⟨fun ho hc a => ?_, fun h i t b => kill_of_suspended h⟩
  have hca : s.can (s.amounts a).permission = true := hc _
  refine ⟨⟨fun ⟨t, b, hm⟩ => ?_, fun h => ?_⟩, fun h => ?_, request_of_refused ho hca⟩
  · by_contra hn
    rw [request_of_refused ho hca (eq_false_of_ne_true hn)] at hm
    cases hm
  · rw [(request_of_allowed ho hca h).1]
    exact ⟨_, _, List.mem_singleton_self _⟩
  · obtain ⟨he, hr⟩ := request_of_allowed ho hca h
    obtain ⟨ht, hn⟩ := tickets_opened o is
    have hnext : s.power.nextTicket = 1 + .ofNat calls.length := hn
    refine ⟨_, _, he, hr, s.power.phase.amount_cases a, hnext, ?_⟩
    rw [hnext, ht]
    exact Power.notMem_ticketsFrom 1 calls.length

/-- a stop under way: a second one is a kill with the next ticket, a start is refused; and then the
server is shown as suspended -/
theorem acts_iff_allowed_stopping :
    let o := Opening.plain .running .everything
    let stop : List Input := [.operation (.request .stop)]
    let s := (o.session.run stop).1
    let u := (o.session.run (stop ++ [.operation (.hear (.frame (.status .suspended)))])).1
    (s.closed = false ∧ (∀ b : PowerAction, s.can b.permission = true)) ∧
    (s.powerView.allows .stop = true ∧ (s.request .stop).effects = [.call 2 .kill]) ∧
    (s.powerView.allows .start = false ∧ s.request .start = ⟨s, [], .ok ()⟩) ∧
    (u.status = .suspended ∧ u.power.phase = .stopping 1 ∧
      ∀ i t b, Effect.call t b ∈ (u.feed i).2 → b = .kill) := by
  intro o stop s u
  have hc : ∀ b : PowerAction, s.can b.permission = true := fun b => by cases b <;> rfl
  obtain ⟨hs, _⟩ := acts_iff_allowed o stop
  obtain ⟨_, hu⟩ := acts_iff_allowed o (stop ++ [.operation (.hear (.frame (.status .suspended)))])
  obtain ⟨t, b, he, _, hb, ht, _⟩ := (hs rfl hc .stop).2.1 rfl
  have hk : b = .kill := by
    rcases hb with ⟨_, hb⟩ | ⟨hn, _⟩
    · exact hb
    · exact absurd ⟨rfl, 1, rfl⟩ hn
  refine ⟨⟨rfl, hc⟩, ⟨rfl, ?_⟩, ⟨rfl, (hs rfl hc .start).2.2 rfl⟩, rfl, rfl, hu rfl⟩
  show (s.request .stop).effects = _
  rw [he, ht, hk]
  rfl

end Session

end ServerConsole

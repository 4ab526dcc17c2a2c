import ServerConsole.Proofs.Power.Phases
import ServerConsole.Session.Start

/-!
# Runs of a session

* `Opening`, `Opening.session`  what a session is opened from, and the session it gives;
* `Operation`, `Input`  what can reach a session: the operator, the channel and its task, the clock,
                        and completions of power calls (here of any kind, forged ones included);
* `perform`, `feed`, `run`  one operation, one input, and a list of inputs, with all effects;
* `stepPower_eq`        a power step as a record: it touches the machine, the view, the telemetry
                        and the log, and nothing else;
* `requested_frame`, `completed_eq`  what a permitted request leaves alone, and what a completion leaves
                        in the log and in the view;
* `request_cases`, `perform_cases`  what becomes of the machine, and the calls begun;
* `submit_frame`, `request_frame`, `complete_frame`, `hear_frame`  what is left alone;
* `grant_run`, `closed_run`, `open_of_run`  what every run keeps.
-/

namespace ServerConsole.Session

/-! ## openings -/

structure Opening where
  server : Server
  grant : Grant
  scrollback : Nat
  clock : String
  /-- the status report, when one could be fetched -/
  report : Option StatusReport

def Opening.assembled (o : Opening) : Session := assemble o.server o.grant o.scrollback o.clock

def Opening.session (o : Opening) : Session :=
  match o.report with
  | some report => o.assembled.seed report
  | none => o.assembled

/-- a report sets the server's status, the view and the telemetry, nothing else -/
theorem Opening.session_frame (o : Opening) : ∃ server view telemetry,
    o.session = { o.assembled with server := server, view := view, telemetry := telemetry } := by
  unfold session
  split
  · next r _ =>
    unfold seed
    cases r.sample with
    | none => exact ⟨_, _, _, rfl⟩
    | some sample =>
      dsimp only
      split
      · exact ⟨_, _, _, rfl⟩
      · exact ⟨_, _, _, rfl⟩
  · exact ⟨_, _, _, rfl⟩

/-- an opening for a server without limits, without a status report -/
def Opening.plain (status : Status) (grant : Grant) : Opening :=
  ⟨⟨.nil, "", "", status, false, 0, 0, 0⟩, grant, 100, "", none⟩

/-- every session that starts is one of an opening -/
theorem exists_opening_of_start {o : Options} {id : ServerId} {clock : String} {f : Fetched}
    {s : Session} (h : start o id clock f = .ok s) : ∃ opening : Opening, s = opening.session := by
  obtain ⟨server, permissions, report⟩ := f
  cases server with
  | error e => cases h
  | ok server =>
    cases permissions with
    | error e => cases h
    | ok names =>
      simp only [start, bind, Except.bind, pure, Except.pure] at h
      split at h
      · cases h
      · split at h
        · cases h
        · cases report with
          | ok r =>
            exact ⟨⟨server, ⟨names⟩, o.scrollback, clock, some r⟩, (Except.ok.inj h).symm⟩
          | error e =>
            exact ⟨⟨server, ⟨names⟩, o.scrollback, clock, none⟩, (Except.ok.inj h).symm⟩

/-! ## inputs -/

inductive Operation
  | submit (typed : String)
  | request (action : PowerAction)
  | revisit (direction : Direction)
  /-- an event of the channel is taken off its queue -/
  | hear (event : Link.Event)
  /-- the task of the channel takes no more commands -/
  | detach
  /-- lines that come in from now on get this label -/
  | relabel (clock : String)
  | close

inductive Input
  | operation (operation : Operation)
  | completion (completion : Completion)

def perform (s : Session) : Operation → Session × List Effect
  | .submit typed => ((s.submit typed).session, (s.submit typed).effects)
  | .request action => ((s.request action).session, (s.request action).effects)
  | .revisit direction => ((s.revisit direction).1, [])
  | .hear event => s.receive (.link event)
  | .detach => ({ s with link := { s.link with accepting := false } }, [])
  | .relabel clock => ({ s with clock := clock }, [])
  | .close => (s.close, [])

def feed (s : Session) : Input → Session × List Effect
  | .operation o => s.perform o
  | .completion c => s.receive (.power c)

/-- a whole run: the session at its end, and everything it left to do -/
def run (s : Session) : List Input → Session × List Effect
  | [] => (s, [])
  | i :: is =>
    let (s, out) := s.feed i
    let (s, more) := s.run is
    (s, out ++ more)

theorem run_nil (s : Session) : s.run [] = (s, []) := rfl

theorem run_cons (s : Session) (i : Input) (is : List Input) :
    s.run (i :: is) = (((s.feed i).1.run is).1, (s.feed i).2 ++ ((s.feed i).1.run is).2) := rfl

theorem run_append (s : Session) (a b : List Input) :
    s.run (a ++ b) = (((s.run a).1.run b).1, (s.run a).2 ++ ((s.run a).1.run b).2) := by
  induction a generalizing s with
  | nil => simp [run_nil]
  | cons i a ih => simp [run_cons, ih]

/-! ## power steps -/

/-- the part of an effect in the view, in the telemetry and in the log -/
def viewed (v : StatusView) : Power.Effect → StatusView
  | .setStatus status => (v.assume status).1
  | _ => v

def measured (t : Telemetry) : Power.Effect → Telemetry
  | .resetStats => t.reset
  | .markStatsUnknown => t.forget
  | _ => t

def logged (clock : String) (log : Log) : Power.Effect → Log
  | .logError reason => log.append (.error clock reason)
  | _ => log

theorem applyPower_eq (s : Session) (e : Power.Effect) :
    s.applyPower e = { s with
      view := viewed s.view e, telemetry := measured s.telemetry e, log := logged s.clock s.log e } := by
  cases e <;> rfl

theorem foldl_applyPower (s : Session) (es : List Power.Effect) :
    es.foldl applyPower s = { s with
      view := es.foldl viewed s.view
      telemetry := es.foldl measured s.telemetry
      log := es.foldl (logged s.clock) s.log } := by
  induction es generalizing s with
  | nil => rfl
  | cons e es ih => rw [List.foldl_cons, applyPower_eq, ih]; rfl

theorem stepPower_eq (s : Session) (event : Power.Event) :
    s.stepPower event =
      ({ s with
          power := (s.power.step event s.status).1
          view := (s.power.step event s.status).2.foldl viewed s.view
          telemetry := (s.power.step event s.status).2.foldl measured s.telemetry
          log := (s.power.step event s.status).2.foldl (logged s.clock) s.log },
        (s.power.step event s.status).2.filterMap callOf?) := by
  show ((s.power.step event s.status).2.foldl applyPower _, _) = _
  rw [foldl_applyPower]
  rfl

theorem amounts_eq (s : Session) (a : PowerAction) : s.amounts a = s.power.phase.amount a := by
  cases a with
  | start | restart | kill => rfl
  | stop => cases h : s.power.phase <;> simp [amounts, Power.Phase.amount, h]

/-- a completion begins no call -/
theorem calls_completed (s : Session) (t : Power.Ticket) (a : PowerAction) (f : Power.Outcome) :
    (s.stepPower (.completed t a f)).2 = [] := by
  rw [stepPower_eq]
  show ((s.power.complete t a f).2).filterMap callOf? = []
  rcases s.power.complete_cases t a f with ⟨_, h⟩ | ⟨_, h⟩ | ⟨_, _, h⟩
  · rw [h]; cases f <;> rfl
  · rw [h]; cases f <;> cases a <;> rfl
  · rw [h]; rfl

theorem filterMap_ahead (a : PowerAction) : (Power.ahead a).filterMap callOf? = [] := by
  cases a <;> rfl

/-- what a request that is permitted does: it kills, launches an action, or does nothing -/
theorem requested_cases (s : Session) (a : PowerAction) :
    (s.power.phase.amount a = .kill ∧
      (s.stepPower (.requested a)).1.power = s.power.issue (Power.Machine.afterKill s.power.phase) ∧
      (s.stepPower (.requested a)).2 = [.call s.power.nextTicket .kill]) ∨
    (s.power.phase = .idle ∧ Power.launchable a s.status = true ∧
      (s.stepPower (.requested a)).1.power = s.power.issue (Power.launch a) ∧
      (s.stepPower (.requested a)).2 = [.call s.power.nextTicket a]) ∨
    ((s.stepPower (.requested a)).1.power = s.power ∧ (s.stepPower (.requested a)).2 = []) := by
  rw [stepPower_eq]
  show (_ ∧ (s.power.request a s.status).1 = _ ∧
      ((s.power.request a s.status).2).filterMap callOf? = _) ∨
    (_ ∧ _ ∧ (s.power.request a s.status).1 = _ ∧
      ((s.power.request a s.status).2).filterMap callOf? = _) ∨
    ((s.power.request a s.status).1 = _ ∧ ((s.power.request a s.status).2).filterMap callOf? = _)
  rcases s.power.request_cases a s.status with ⟨hk, h⟩ | ⟨hp, hl, h⟩ | ⟨_, _, h⟩
  · exact .inl ⟨hk, by rw [h], by rw [h]; rfl⟩
  · refine .inr (.inl ⟨hp, hl, by rw [h], ?_⟩)
    rw [h, List.filterMap_append, filterMap_ahead]
    rfl
  · exact .inr (.inr ⟨by rw [h], by rw [h]; rfl⟩)

/-- a request that is permitted leaves all but the telemetry and the power machine alone -/
theorem requested_frame (s : Session) (a : PowerAction) : ∃ telemetry power,
    (s.stepPower (.requested a)).1 = { s with telemetry := telemetry, power := power } := by
  rw [stepPower_eq]
  show ∃ telemetry power, { s with
    power := (s.power.request a s.status).1
    view := (s.power.request a s.status).2.foldl viewed s.view
    telemetry := (s.power.request a s.status).2.foldl measured s.telemetry
    log := (s.power.request a s.status).2.foldl (logged s.clock) s.log } = _
  rcases s.power.request_cases a s.status with ⟨_, h⟩ | ⟨_, _, h⟩ | ⟨_, _, h⟩
  · rw [h]
    exact ⟨_, _, rfl⟩
  · rw [h]
    cases a <;> exact ⟨_, _, rfl⟩
  · rw [h]
    exact ⟨_, _, rfl⟩

/-- what a completion leaves in the log and in the view: the reason of a failure, or the status of a
success, when it is taken -/
theorem foldl_logged_told (clock : String) (log : Log) (a : PowerAction) (f : Power.Outcome) :
    (Power.Machine.told a f).foldl (logged clock) log =
      f.elim log fun reason => log.append (.error clock reason) := by
  cases f with
  | none => cases a <;> rfl
  | some reason => rfl

theorem foldl_viewed_told (v : StatusView) (a : PowerAction) (f : Power.Outcome) :
    (Power.Machine.told a f).foldl viewed v =
      f.elim (v.assume (Power.attained a)).1 fun _ => v := by
  cases f with
  | none => cases a <;> rfl
  | some reason => rfl

theorem completed_eq (s : Session) (c : Completion) :
    let after := (s.stepPower (.completed c.ticket c.action c.failure)).1
    after.log = (if s.power.phase.takes c.ticket c.action then
      c.failure.elim s.log fun reason => s.log.append (.error s.clock reason) else s.log) ∧
    after.view = (if s.power.phase.takes c.ticket c.action then
      c.failure.elim (s.view.assume (Power.attained c.action)).1 fun _ => s.view else s.view) ∧
    after.server = s.server := by
  intro after
  have h : after = _ := congrArg Prod.fst (s.stepPower_eq _)
  have he : (s.power.step (.completed c.ticket c.action c.failure) s.status).2 = _ :=
    s.power.effects_complete c.ticket c.action c.failure
  rw [h, he]
  by_cases ht : s.power.phase.takes c.ticket c.action = true
  · simp only [if_pos ht, foldl_logged_told, foldl_viewed_told, and_self]
  · simp only [if_neg ht, List.foldl_nil, and_self]

/-! ## requests and completions -/

theorem request_of_closed {s : Session} (h : s.closed = true) (a : PowerAction) :
    s.request a = ⟨s, [], .error .sessionClosed⟩ := by
  simp [request, h]

theorem request_of_can {s : Session} {a : PowerAction} (ho : s.closed = false)
    (hc : s.can (s.amounts a).permission = true) :
    s.request a = ⟨(s.stepPower (.requested a)).1, (s.stepPower (.requested a)).2, .ok ()⟩ := by
  simp [request, ho, hc]

theorem request_of_cannot {s : Session} {a : PowerAction} (ho : s.closed = false)
    (hc : s.can (s.amounts a).permission = false) :
    s.request a = ⟨s.appendSystem (actionRefused (s.amounts a)), [],
      .error (.permissionDenied (s.amounts a).permission)⟩ := by
  simp [request, ho, hc]

/-- what a request does to the power machine, and the calls it begins -/
theorem request_cases (s : Session) (a : PowerAction) :
    (s.closed = false ∧ s.power.phase.amount a = .kill ∧
      (s.request a).session.power = s.power.issue (Power.Machine.afterKill s.power.phase) ∧
      (s.request a).effects = [.call s.power.nextTicket .kill]) ∨
    (s.closed = false ∧ s.power.phase = .idle ∧ Power.launchable a s.status = true ∧
      (s.request a).session.power = s.power.issue (Power.launch a) ∧
      (s.request a).effects = [.call s.power.nextTicket a]) ∨
    ((s.request a).session.power = s.power ∧ (s.request a).effects = []) := by
  by_cases hc : s.closed = true
  · rw [request_of_closed hc]
    exact .inr (.inr ⟨rfl, rfl⟩)
  · have ho : s.closed = false := eq_false_of_ne_true hc
    by_cases hp : s.can (s.amounts a).permission = true
    · rw [request_of_can ho hp]
      rcases s.requested_cases a with ⟨hk, h1, h2⟩ | ⟨hi, hl, h1, h2⟩ | ⟨h1, h2⟩
      · exact .inl ⟨ho, hk, h1, h2⟩
      · exact .inr (.inl ⟨ho, hi, hl, h1, h2⟩)
      · exact .inr (.inr ⟨h1, h2⟩)
    · rw [request_of_cannot ho (eq_false_of_ne_true hp)]
      exact .inr (.inr ⟨rfl, rfl⟩)

theorem receive_power_of_open {s : Session} (h : s.closed = false) (c : Completion) :
    s.receive (.power c) = s.stepPower (.completed c.ticket c.action c.failure) := by
  simp [receive, awaits, handle, handlePower, h]

theorem receive_link_of_awaits {s : Session} {e : Link.Event} (h : s.awaits (.link e) = true) :
    s.receive (.link e) = ({ s with link := s.link.observe e }.handleLink e, []) := by
  have ho : s.closed = false := by
    simp only [awaits, Bool.and_eq_true, Bool.not_eq_true'] at h
    exact h.1
  have hn : ¬ ({ s with link := s.link.observe e } : Session).closed = true := by
    show ¬ s.closed = true
    rw [ho]
    exact Bool.false_ne_true
  show (if s.awaits (.link e) = true then _ else _) = _
  rw [if_pos h]
  exact if_neg hn

theorem receive_of_closed {s : Session} (h : s.closed = true) (e : Event) :
    s.receive e = (s, []) := by
  cases e <;> simp [receive, awaits, h]

/-! ## what an operation leaves alone -/

theorem handleFrame_frame (s : Session) (f : Frame) : ∃ server view log telemetry,
    s.handleFrame f = { s with server := server, view := view, log := log, telemetry := telemetry } := by
  cases f with
  | console line color daemon => exact ⟨s.server, s.view, _, s.telemetry, rfl⟩
  | stats sample => exact ⟨s.server, s.view, s.log, _, rfl⟩
  | status status => exact ⟨_, _, s.log, _, rfl⟩
  | error message => exact ⟨s.server, s.view, _, s.telemetry, rfl⟩

theorem handleLink_frame (s : Session) (e : Link.Event) : ∃ server view log telemetry,
    s.handleLink e = { s with server := server, view := view, log := log, telemetry := telemetry } := by
  cases e with
  | frame f => exact s.handleFrame_frame f
  | opened reconnected =>
    cases reconnected with
    | true => exact ⟨s.server, s.view, _, s.telemetry, rfl⟩
    | false => exact ⟨s.server, s.view, s.log, s.telemetry, rfl⟩
  | rejected _ | lost _ | gaveUp _ => exact ⟨s.server, s.view, s.log, _, rfl⟩
  | reconnecting _ _ | closed => exact ⟨s.server, s.view, s.log, s.telemetry, rfl⟩

/-- an event of the channel leaves the power machine, the history, the grant and the clock alone,
and nothing to do -/
theorem hear_frame (s : Session) (e : Link.Event) : ∃ server view log telemetry link,
    s.receive (.link e) =
      ({ s with server := server, view := view, log := log, telemetry := telemetry, link := link }, []) := by
  by_cases h : s.awaits (.link e) = true
  · obtain ⟨server, view, log, telemetry, hl⟩ :=
      handleLink_frame { s with link := s.link.observe e } e
    exact ⟨server, view, log, telemetry, s.link.observe e, by rw [receive_link_of_awaits h, hl]⟩
  · exact ⟨s.server, s.view, s.log, s.telemetry, s.link, by simp [receive, h]⟩

/-- a command leaves all but the log and the history alone; at most it is queued, when that is
permitted -/
theorem submit_frame (s : Session) (typed : String) : ∃ log history,
    (s.submit typed).session = { s with log := log, history := history } ∧
    ((s.submit typed).effects = [] ∨
      ∃ c, (s.submit typed).effects = [.queue c] ∧ s.can Grant.consoleWrite = true) := by
  unfold submit
  split
  · exact ⟨s.log, s.history, rfl, .inl rfl⟩
  · split
    · exact ⟨s.log, s.history, rfl, .inl rfl⟩
    · next c _ =>
      split
      · next hw =>
        split
        · exact ⟨s.log, s.history, rfl, .inl rfl⟩
        · exact ⟨_, _, rfl, .inr ⟨c, rfl, hw⟩⟩
      · exact ⟨_, s.history, rfl, .inl rfl⟩

theorem stepPower_frame (s : Session) (event : Power.Event) : ∃ view log telemetry,
    (s.stepPower event).1 = { s with
      power := (s.power.step event s.status).1, view := view, log := log, telemetry := telemetry } := by
  rw [stepPower_eq]
  exact ⟨_, _, _, rfl⟩

/-- a request leaves the server, the history, the channel, the grant and the clock alone -/
theorem request_frame (s : Session) (a : PowerAction) : ∃ view log telemetry power,
    (s.request a).session =
      { s with view := view, log := log, telemetry := telemetry, power := power } := by
  by_cases hc : s.closed = true
  · exact ⟨s.view, s.log, s.telemetry, s.power, by rw [request_of_closed hc]⟩
  · have ho : s.closed = false := eq_false_of_ne_true hc
    by_cases hp : s.can (s.amounts a).permission = true
    · obtain ⟨view, log, telemetry, h⟩ := s.stepPower_frame (.requested a)
      exact ⟨view, log, telemetry, _, by rw [request_of_can ho hp]; exact h⟩
    · rw [request_of_cannot ho (eq_false_of_ne_true hp)]
      exact ⟨s.view, _, s.telemetry, s.power, rfl⟩

/-- a completion leaves the server, the history, the channel, the grant and the clock alone -/
theorem complete_frame (s : Session) (c : Completion) : ∃ view log telemetry power,
    s.receive (.power c) =
      ({ s with view := view, log := log, telemetry := telemetry, power := power }, []) := by
  by_cases hc : s.closed = true
  · exact ⟨s.view, s.log, s.telemetry, s.power, by rw [receive_of_closed hc]⟩
  · obtain ⟨view, log, telemetry, h⟩ := s.stepPower_frame (.completed c.ticket c.action c.failure)
    refine ⟨view, log, telemetry,
      (s.power.step (.completed c.ticket c.action c.failure) s.status).1, ?_⟩
    rw [receive_power_of_open (eq_false_of_ne_true hc), ← h,
      ← calls_completed s c.ticket c.action c.failure]

/-- what an operation does to the power machine, and the calls it begins -/
theorem perform_cases (s : Session) (op : Operation) :
    (∃ a, op = .request a ∧ s.closed = false ∧ s.power.phase.amount a = .kill ∧
      (s.perform op).1.power = s.power.issue (Power.Machine.afterKill s.power.phase) ∧
      (s.perform op).2 = [.call s.power.nextTicket .kill]) ∨
    (∃ a, op = .request a ∧ s.closed = false ∧ s.power.phase = .idle ∧
      Power.launchable a s.status = true ∧
      (s.perform op).1.power = s.power.issue (Power.launch a) ∧
      (s.perform op).2 = [.call s.power.nextTicket a]) ∨
    ((s.perform op).1.power = s.power ∧ ∀ e ∈ (s.perform op).2, ∃ c, e = .queue c) := by
  cases op with
  | request a =>
    rcases s.request_cases a with ⟨ho, hk, h1, h2⟩ | ⟨ho, hp, hl, h1, h2⟩ | ⟨h1, h2⟩
    · exact .inl ⟨a, rfl, ho, hk, h1, h2⟩
    · exact .inr (.inl ⟨a, rfl, ho, hp, hl, h1, h2⟩)
    · refine .inr (.inr ⟨h1, fun e he => ?_⟩)
      have he' : e ∈ (s.request a).effects := he
      rw [h2] at he'
      cases he'
  | submit typed =>
    obtain ⟨log, history, h, heff⟩ := s.submit_frame typed
    have hp : (s.submit typed).session.power = s.power := by rw [h]
    refine .inr (.inr ⟨hp, fun e he => ?_⟩)
    have he' : e ∈ (s.submit typed).effects := he
    rcases heff with hn | ⟨c, hq, _⟩
    · rw [hn] at he'
      cases he'
    · rw [hq] at he'
      exact ⟨c, List.mem_singleton.mp he'⟩
  | hear event =>
    obtain ⟨_, _, _, _, _, h⟩ := s.hear_frame event
    have hp : (s.receive (.link event)).1.power = s.power := by rw [h]
    refine .inr (.inr ⟨hp, fun e he => ?_⟩)
    have he' : e ∈ (s.receive (.link event)).2 := he
    rw [h] at he'
    cases he'
  | revisit _ | detach | relabel _ => exact .inr (.inr ⟨rfl, fun e he => by cases he⟩)
  | close =>
    refine .inr (.inr ⟨?_, fun e he => by cases he⟩)
    show s.close.power = s.power
    unfold close
    split <;> rfl

/-! ## what every run keeps -/

theorem grant_feed (s : Session) (i : Input) : (s.feed i).1.grant = s.grant := by
  cases i with
  | completion c =>
    obtain ⟨_, _, _, _, h⟩ := s.complete_frame c
    show (s.receive (.power c)).1.grant = s.grant
    rw [h]
  | operation op =>
    cases op with
    | submit typed =>
      obtain ⟨_, _, h, _⟩ := s.submit_frame typed
      show (s.submit typed).session.grant = s.grant
      rw [h]
    | request a =>
      obtain ⟨_, _, _, _, h⟩ := s.request_frame a
      show (s.request a).session.grant = s.grant
      rw [h]
    | hear e =>
      obtain ⟨_, _, _, _, _, h⟩ := s.hear_frame e
      show (s.receive (.link e)).1.grant = s.grant
      rw [h]
    | revisit _ | detach | relabel _ => rfl
    | close => show s.close.grant = s.grant; unfold close; split <;> rfl

/-- only the end closes a session -/
theorem closed_feed (s : Session) (i : Input) :
    (s.feed i).1.closed = (s.closed || i matches .operation .close) := by
  cases i with
  | completion c =>
    obtain ⟨_, _, _, _, h⟩ := s.complete_frame c
    show (s.receive (.power c)).1.closed = (s.closed || false)
    rw [h, Bool.or_false]
  | operation op =>
    cases op with
    | submit typed =>
      obtain ⟨_, _, h, _⟩ := s.submit_frame typed
      show (s.submit typed).session.closed = (s.closed || false)
      rw [h, Bool.or_false]
    | request a =>
      obtain ⟨_, _, _, _, h⟩ := s.request_frame a
      show (s.request a).session.closed = (s.closed || false)
      rw [h, Bool.or_false]
    | hear e =>
      obtain ⟨_, _, _, _, _, h⟩ := s.hear_frame e
      show (s.receive (.link e)).1.closed = (s.closed || false)
      rw [h, Bool.or_false]
    | revisit _ | detach | relabel _ => exact (Bool.or_false s.closed).symm
    | close =>
      show s.close.closed = (s.closed || true)
      unfold close
      split
      · next h => rw [h]; rfl
      · rw [Bool.or_true]

/-- what each input keeps, a run keeps -/
theorem run_of_feed {P : Session → Prop} (step : ∀ s i, P s → P (s.feed i).1) {s : Session}
    (h : P s) (is : List Input) : P (s.run is).1 := by
  induction is generalizing s with
  | nil => exact h
  | cons i is ih => exact ih (step s i h)

theorem grant_run (s : Session) (is : List Input) : (s.run is).1.grant = s.grant :=
  run_of_feed (P := fun t => t.grant = s.grant) (fun t i h => (t.grant_feed i).trans h) rfl is

/-- what is closed stays closed -/
theorem closed_run {s : Session} (h : s.closed = true) (is : List Input) :
    (s.run is).1.closed = true :=
  run_of_feed (P := fun t => t.closed = true) (fun t i ht => by rw [closed_feed, ht]; rfl) h is

/-- a session that is open at the end of a run was open before -/
theorem open_of_run {s : Session} {is : List Input} (h : (s.run is).1.closed = false) :
    s.closed = false :=
  eq_false_of_ne_true fun hc => by
    rw [closed_run hc] at h
    cases h

theorem open_of_run_cons {s : Session} {i : Input} {is : List Input}
    (h : (s.run (i :: is)).1.closed = false) :
    s.closed = false ∧ i ≠ .operation .close ∧ (s.feed i).1.closed = false := by
  rw [run_cons] at h
  have hi : (s.feed i).1.closed = false := open_of_run h
  have hb := hi
  rw [closed_feed, Bool.or_eq_false_iff] at hb
  refine ⟨hb.1, ?_, hi⟩
  rintro rfl
  cases hb.2

end ServerConsole.Session

import ServerConsole.Proofs.Session.Run

/-!
# What a session does is permitted

* `Effect.permission`          the permission an effect needs;
* `effects_requested`          a request begins at most the call that its check was made for;
* `can_of_mem_feed`            every effect of an input is permitted when the input comes in;
* `effects_permitted`          so it is in every run, whatever is granted, and a request that is
                               refused for want of a permission adds a line to the log, no more.

The check of a request is made on `Session.amounts`, the choice of the call in `Machine.request`;
`Phase.amount` is what both go by.
-/

namespace ServerConsole.Session

def Effect.permission : Effect → String
  | .call _ action => action.permission
  | .queue _ => Grant.consoleWrite

/-! ## one input -/

/-- the call a request begins, if any, is of the action it amounts to -/
theorem effects_requested (s : Session) (a : PowerAction) :
    (s.stepPower (.requested a)).2 = [] ∨
      (s.stepPower (.requested a)).2 = [.call s.power.nextTicket (s.amounts a)] := by
  rw [amounts_eq]
  rcases s.requested_cases a with ⟨hk, _, h⟩ | ⟨hp, _, _, h⟩ | ⟨_, h⟩
  · right
    rw [h, hk]
  · right
    rw [h, hp, Power.Phase.amount_idle]
  · exact .inl h

theorem can_of_mem_request {s : Session} {a : PowerAction} {e : Effect}
    (h : e ∈ (s.request a).effects) : s.can e.permission = true := by
  by_cases hc : s.closed = true
  · rw [request_of_closed hc] at h
    cases h
  · have ho : s.closed = false := eq_false_of_ne_true hc
    by_cases hp : s.can (s.amounts a).permission = true
    · rw [request_of_can ho hp] at h
      rcases s.effects_requested a with hn | hs
      · rw [hn] at h
        cases h
      · rw [hs] at h
        have he : e = .call s.power.nextTicket (s.amounts a) := List.mem_singleton.mp h
        rw [he]
        exact hp
    · rw [request_of_cannot ho (eq_false_of_ne_true hp)] at h
      cases h

theorem can_of_mem_submit {s : Session} {typed : String} {e : Effect}
    (h : e ∈ (s.submit typed).effects) : s.can e.permission = true := by
  obtain ⟨_, _, _, hn | ⟨c, hq, hw⟩⟩ := s.submit_frame typed
  · rw [hn] at h
    cases h
  · rw [hq] at h
    rw [List.mem_singleton.mp h]
    exact hw

theorem can_of_mem_feed {s : Session} {i : Input} {e : Effect} (h : e ∈ (s.feed i).2) :
    s.can e.permission = true := by
  cases i with
  | completion c =>
    obtain ⟨_, _, _, _, hc⟩ := s.complete_frame c
    have h' : e ∈ (s.receive (.power c)).2 := h
    rw [hc] at h'
    cases h'
  | operation op =>
    cases op with
    | submit typed => exact can_of_mem_submit h
    | request a => exact can_of_mem_request h
    | hear event =>
      obtain ⟨_, _, _, _, _, hh⟩ := s.hear_frame event
      have h' : e ∈ (s.receive (.link event)).2 := h
      rw [hh] at h'
      cases h'
    | revisit _ | detach | relabel _ | close => cases h

/-- a request refused for want of a permission, in full -/
theorem request_of_denied {s : Session} {a : PowerAction} {p : String}
    (h : (s.request a).result = .error (.permissionDenied p)) :
    p = (s.amounts a).permission ∧ s.can p = false ∧
      s.request a = ⟨{ s with log := s.log.append (.system s.clock (actionRefused (s.amounts a))) },
        [], .error (.permissionDenied p)⟩ := by
  by_cases hc : s.closed = true
  · rw [request_of_closed hc] at h
    cases h
  · have ho : s.closed = false := eq_false_of_ne_true hc
    by_cases hp : s.can (s.amounts a).permission = true
    · rw [request_of_can ho hp] at h
      cases h
    · have hp' : s.can (s.amounts a).permission = false := eq_false_of_ne_true hp
      rw [request_of_cannot ho hp'] at h
      have e : (s.amounts a).permission = p := by
        injection h with h
        injection h
      rw [← e]
      exact ⟨rfl, hp', request_of_cannot ho hp'⟩

/-! ## every run -/

theorem can_run (s : Session) (is : List Input) (p : String) : (s.run is).1.can p = s.can p := by
  show (s.run is).1.grant.allows p = s.grant.allows p
  rw [grant_run]

theorem can_of_mem_run {s : Session} {is : List Input} {e : Effect} (h : e ∈ (s.run is).2) :
    s.can e.permission = true := by
  induction is generalizing s with
  | nil => cases h
  | cons i is ih =>
    rw [run_cons] at h
    rcases List.mem_append.mp h with h | h
    · exact can_of_mem_feed h
    · have hc := ih h
      rw [← hc]
      show s.grant.allows _ = (s.feed i).1.grant.allows _
      rw [grant_feed]

/-- **No effect without its permission.** Whatever is granted and whatever a run brings, each call
and each queued command is permitted at the moment it is begun, and at every moment of the run; a
request refused for want of a permission changes the log by one line and nothing else. -/
theorem effects_permitted (o : Opening) (is : List Input) :
    let s := (o.session.run is).1
    (∀ i, ∀ e ∈ (s.feed i).2, s.can e.permission = true) ∧
    (∀ e ∈ (o.session.run is).2, s.can e.permission = true) ∧
    ∀ a p, (s.request a).result = .error (.permissionDenied p) →
      p = (s.amounts a).permission ∧ s.can p = false ∧ (s.request a).effects = [] ∧
      (s.request a).session =
        { s with log := s.log.append ⟨s.clock, actionRefused (s.amounts a), none, .system⟩ } := by
  intro s
  refine ⟨fun i e he => can_of_mem_feed he, fun e he => ?_, fun a p h => ?_⟩
  · show (o.session.run is).1.can e.permission = true
    rw [can_run]
    exact can_of_mem_run he
  · obtain ⟨hp, hc, hr⟩ := request_of_denied h
    refine ⟨hp, hc, ?_, ?_⟩
    · rw [hr]
    · rw [hr]
      rfl

/-- a stop, a second stop that is a kill, and a restart that is refused -/
theorem effects_permitted_stop_stop :
    let s := ((Opening.plain .running ⟨["power.stop", "power.kill"]⟩).session.run
      [.operation (.request .stop)]).1
    (Effect.call 2 .kill ∈ (s.feed (.operation (.request .stop))).2 ∧ s.can "power.kill" = true) ∧
    (s.request .restart).result = .error (.permissionDenied "power.restart") ∧
    (s.request .restart).session.log.size = s.log.size + 1 :=
  have h := effects_permitted (.plain .running ⟨["power.stop", "power.kill"]⟩)
    [.operation (.request .stop)]
  ⟨⟨by decide, h.1 (.operation (.request .stop)) (.call 2 .kill) (by decide)⟩, rfl, by
    rw [(h.2.2 .restart "power.restart" rfl).2.2.2]
    rfl⟩

end ServerConsole.Session

import ServerConsole.Proofs.Session.Run

/-!
# Telemetry after a confirmed stop

A status frame with a status without a live run voids the telemetry when the status shown changes,
and only then. What it finds unchanged may have been reset long before, at a guess of the machine.

* `Telemetry.Cleared`    the empty sample, not stale;
* `cleared_confirm_iff`  what the frame leaves, in terms of what it finds;
* `Input.disturbs`       the inputs that give an old sample another chance: a sample comes in, or
                         the connection is lost;
* `Void`                 another status is shown, or the telemetry is cleared; all other inputs
                         keep this (`void_feed`);
* `cleared_by_status`    what holds right after the frame, in every run;
* `sample_survives_status`  a run in which a sample of the old run is kept.
-/

namespace ServerConsole

/-! ## definitions -/

def Telemetry.Cleared (t : Telemetry) : Prop := t.sample = some .empty ∧ t.stale = false

theorem Telemetry.cleared_reset (t : Telemetry) : t.reset.Cleared := ⟨rfl, rfl⟩

theorem Sample.memory_sanitized (s : Sample) : s.sanitized.memory = s.memory := by
  unfold sanitized
  split <;> rfl

theorem StatusView.effective_assume (v : StatusView) (status : Status) :
    (v.assume status).1.effective = if v.suspended then .suspended else status := rfl

theorem StatusView.changed_confirm (v : StatusView) (status : Status) :
    (v.confirm status).2 = (v.effective != status) := by
  rw [← v.effective_confirm status]
  cases status <;> rfl

namespace Session

/-- a sample comes in, or the connection is lost -/
def Input.disturbs : Input → Bool
  | .operation (.hear (.frame (.stats _))) => true
  | .operation (.hear (.rejected _)) => true
  | .operation (.hear (.lost _)) => true
  | .operation (.hear (.gaveUp _)) => true
  | _ => false

/-- no telemetry of a run before the status is kept -/
def Void (status : Status) (s : Session) : Prop := s.status ≠ status ∨ s.telemetry.Cleared

/-! ## the frame -/

theorem status_confirm (s : Session) (status : Status) : (s.confirm status).status = status :=
  s.view.effective_confirm status

theorem telemetry_confirm (s : Session) (status : Status) :
    (s.confirm status).telemetry =
      if s.status ≠ status ∧ status.clearsTelemetry = true then s.telemetry.reset
      else s.telemetry := by
  show (if ((s.view.confirm status).2 && status.clearsTelemetry) = true then _ else _) = _
  rw [StatusView.changed_confirm]
  by_cases h : s.view.effective = status <;> by_cases hc : status.clearsTelemetry = true <;>
    simp [Session.status, h, hc]

/-- the telemetry is reset exactly when the status shown changes -/
theorem cleared_confirm_iff (s : Session) {status : Status} (hc : status.clearsTelemetry = true) :
    (s.confirm status).telemetry.Cleared ↔ s.Void status := by
  rw [telemetry_confirm]
  by_cases h : s.status = status
  · rw [if_neg (fun hn => hn.1 h)]
    exact ⟨.inr, fun hv => hv.resolve_left (fun hn => hn h)⟩
  · rw [if_pos ⟨h, hc⟩]
    exact ⟨fun _ => .inl h, fun _ => Telemetry.cleared_reset _⟩

/-- what is void of a status stays so when any status is confirmed -/
theorem void_confirm {s : Session} {status : Status} (hc : status.clearsTelemetry = true)
    (h : s.Void status) (other : Status) : (s.confirm other).Void status := by
  by_cases ho : other = status
  · rw [ho]
    exact .inr ((s.cleared_confirm_iff hc).mpr h)
  · left
    rw [status_confirm]
    exact ho

/-! ## power steps -/

/-- a request does not touch the status, and voids the telemetry if at all -/
theorem void_requested {s : Session} {status : Status} (hc : status.clearsTelemetry = true)
    (h : s.Void status) (a : PowerAction) : (s.stepPower (.requested a)).1.Void status := by
  rw [stepPower_eq]
  show StatusView.effective (((s.power.request a s.status).2).foldl viewed s.view) ≠ status ∨
    (((s.power.request a s.status).2).foldl measured s.telemetry).Cleared
  rcases s.power.request_cases a s.status with ⟨_, hr⟩ | ⟨_, hl, hr⟩ | ⟨_, _, hr⟩
  · rw [hr]
    exact h
  · rw [hr]
    cases a with
    | start => exact .inr (Telemetry.cleared_reset _)
    | stop => exact h
    | kill => cases hl
    | restart =>
      left
      have hs : s.status = .running := by simpa [Power.launchable] using hl
      show s.status ≠ status
      rw [hs]
      rintro rfl
      cases hc
  · rw [hr]
    exact h

/-- a completion that has a status shown without a live run clears the telemetry too -/
theorem void_completed {s : Session} {status : Status} (hc : status.clearsTelemetry = true)
    (h : s.Void status) (t : Power.Ticket) (a : PowerAction) (f : Power.Outcome) :
    (s.stepPower (.completed t a f)).1.Void status := by
  have hrun : (s.view.assume .running).1.effective ≠ status := by
    rw [StatusView.effective_assume]
    split <;> (rintro rfl; cases hc)
  rw [stepPower_eq]
  show StatusView.effective (((s.power.complete t a f).2).foldl viewed s.view) ≠ status ∨
    (((s.power.complete t a f).2).foldl measured s.telemetry).Cleared
  rcases s.power.complete_cases t a f with ⟨_, hr⟩ | ⟨hw, hr⟩ | ⟨_, _, hr⟩
  · rw [hr]
    cases f with
    | none => exact .inr (Telemetry.cleared_reset _)
    | some reason => exact h
  · rw [hr]
    cases f with
    | some reason => exact h
    | none =>
      cases a with
      | start | restart => exact .inl hrun
      | stop => exact .inr (Telemetry.cleared_reset _)
      | kill => exact absurd rfl (Power.Phase.ne_kill_of_awaited hw)
  · rw [hr]
    exact h

/-! ## one input -/

theorem void_handleLink {s : Session} {status : Status} (hc : status.clearsTelemetry = true)
    (h : s.Void status) {e : Link.Event} (hd : (Input.operation (.hear e)).disturbs = false) :
    (s.handleLink e).Void status := by
  cases e with
  | opened reconnected => cases reconnected <;> exact h
  | frame f =>
    cases f with
    | console line color daemon => exact h
    | stats sample => cases hd
    | status other => exact void_confirm hc h other
    | error message => exact h
  | rejected reason => cases hd
  | lost reason => cases hd
  | gaveUp attempts => cases hd
  | reconnecting attempt delay => exact h
  | closed => exact h

theorem void_request {s : Session} {status : Status} (hc : status.clearsTelemetry = true)
    (h : s.Void status) (a : PowerAction) : (s.request a).session.Void status := by
  by_cases hcl : s.closed = true
  · rw [request_of_closed hcl]
    exact h
  · have ho : s.closed = false := eq_false_of_ne_true hcl
    by_cases hp : s.can (s.amounts a).permission = true
    · rw [request_of_can ho hp]
      exact void_requested hc h a
    · rw [request_of_cannot ho (eq_false_of_ne_true hp)]
      exact h

/-- an input keeps it that does not disturb, the end apart -/
theorem void_feed {s : Session} {status : Status} (hc : status.clearsTelemetry = true)
    (h : s.Void status) {i : Input} (hd : i.disturbs = false)
    (ho : (s.feed i).1.closed = false) : (s.feed i).1.Void status := by
  cases i with
  | completion c =>
    show (s.receive (.power c)).1.Void status
    by_cases hcl : s.closed = true
    · rw [receive_of_closed hcl]
      exact h
    · rw [receive_power_of_open (eq_false_of_ne_true hcl)]
      exact void_completed hc h _ _ _
  | operation op =>
    cases op with
    | submit typed =>
      obtain ⟨_, _, hs, _⟩ := s.submit_frame typed
      show (s.submit typed).session.Void status
      rw [hs]
      exact h
    | request a => exact void_request hc h a
    | hear e =>
      show (s.receive (.link e)).1.Void status
      by_cases ha : s.awaits (.link e) = true
      · rw [receive_link_of_awaits ha]
        exact void_handleLink (s := { s with link := s.link.observe e }) hc h hd
      · have hr : s.receive (.link e) = (s, []) := by simp [receive, ha]
        rw [hr]
        exact h
    | revisit _ | detach | relabel _ => exact h
    | close =>
      rw [closed_feed, Bool.or_true] at ho
      cases ho

/-! ## every run -/

theorem void_opening (o : Opening) {status : Status} (hc : status.clearsTelemetry = true) :
    o.session.Void status := by
  -- what the record alone gives
  have ha : o.assembled.Void status := by
    by_cases hs : o.server.status = status
    · right
      show (if o.server.status.clearsTelemetry = true then Telemetry.unknown.reset
        else Telemetry.unknown).Cleared
      rw [hs, if_pos hc]
      exact Telemetry.cleared_reset _
    · left
      show (if o.server.isSuspended then Status.suspended else o.server.status) ≠ status
      split
      · rintro rfl
        cases hc
      · exact hs
  unfold Opening.session
  split
  · next r _ =>
    have hr : (o.assembled.confirm r.status).Void status := void_confirm hc ha r.status
    unfold seed
    cases r.sample with
    | none => exact hr
    | some sample =>
      dsimp only
      split
      · exact hr
      · next hn =>
        left
        show (o.assembled.confirm r.status).status ≠ status
        rw [status_confirm]
        rintro rfl
        exact hn hc
  · exact ha

theorem void_run {s : Session} {status : Status} (hc : status.clearsTelemetry = true)
    (h : s.Void status) {is : List Input} (hd : ∀ i ∈ is, i.disturbs = false)
    (ho : (s.run is).1.closed = false) : (s.run is).1.Void status := by
  induction is generalizing s with
  | nil => exact h
  | cons i is ih =>
    rw [run_cons] at ho ⊢
    exact ih (void_feed hc h (hd i List.mem_cons_self) (open_of_run ho))
      (fun j hj => hd j (List.mem_cons_of_mem _ hj)) ho

/-- **A confirmed stop, and the telemetry.** In every open session that a run leads to, right after a
status frame with a status without a live run that status is shown, and the telemetry is cleared
exactly if another status was shown before, or it was cleared before. So it is cleared whenever no
sample and no loss of the connection came in since the session was opened, since another status was
shown or since the telemetry was cleared. -/
theorem cleared_by_status (o : Opening) (pre post : List Input) (status : Status)
    (hc : status.clearsTelemetry = true) (ho : (o.session.run (pre ++ post)).1.closed = false) :
    let event : Event := .link (.frame (.status status))
    let before := (o.session.run (pre ++ post)).1
    let after := (before.handle event).1
    after.status = status ∧
    (after.telemetry.Cleared ↔ before.status ≠ status ∨ before.telemetry.Cleared) ∧
    (before.awaits event = true → (before.receive event).1.status = status ∧
      (before.receive event).1.telemetry = after.telemetry) ∧
    ((pre = [] ∨ (o.session.run pre).1.status ≠ status ∨ (o.session.run pre).1.telemetry.Cleared) →
      (∀ i ∈ post, i.disturbs = false) → after.telemetry.Cleared) := by
  intro event before after
  have ha : after = before.confirm status := by
    show (if before.closed = true then (before, []) else (before.confirm status, [])).1 = _
    rw [if_neg (by rw [ho]; exact Bool.false_ne_true)]
  rw [ha]
  refine ⟨before.status_confirm status, before.cleared_confirm_iff hc, fun hw => ?_,
    fun hpre hd => ?_⟩
  · rw [receive_link_of_awaits hw]
    exact ⟨status_confirm _ status, rfl⟩
  · have hv : (o.session.run pre).1.Void status := by
      rcases hpre with rfl | hv
      · exact void_opening o hc
      · exact hv
    refine (before.cleared_confirm_iff hc).mpr ?_
    show (o.session.run (pre ++ post)).1.Void status
    rw [run_append] at ho ⊢
    exact void_run hc hv hd ho

/-- a stop succeeds, and the panel confirms it -/
theorem cleared_by_status_after_stop :
    let s := ((Opening.plain .running .everything).session.run
      [.operation (.request .stop), .completion ⟨1, .stop, none⟩]).1
    Status.stopped.clearsTelemetry = true ∧ s.closed = false ∧ s.status = .stopped ∧
      (s.handle (.link (.frame (.status .stopped)))).1.telemetry.Cleared :=
  have h := cleared_by_status (.plain .running .everything) [.operation (.request .stop)]
    [.completion ⟨1, .stop, none⟩] .stopped rfl rfl
  ⟨rfl, rfl, rfl, h.2.2.2 (.inr (.inl (by decide))) (by decide)⟩

/-- a kill succeeds, a sample of the old run comes in, and the panel confirms the stop, twice: the
sample is kept, since `stopped` is what is shown already -/
theorem sample_survives_status :
    let sample : Sample := { Sample.empty with memory := 5 }
    let s := ((Opening.plain .running .everything).session.run
      [.operation (.request .kill), .completion ⟨1, .kill, none⟩,
        .operation (.hear (.frame (.stats sample)))]).1
    let once := (s.handle (.link (.frame (.status .stopped)))).1
    let twice := (once.handle (.link (.frame (.status .stopped)))).1
    s.closed = false ∧ Status.stopped.clearsTelemetry = true ∧
      ¬ once.telemetry.Cleared ∧ ¬ twice.telemetry.Cleared := by
  intro sample s once twice
  have hm : sample.sanitized ≠ .empty := by
    intro h
    have hm := congrArg Sample.memory h
    rw [Sample.memory_sanitized] at hm
    exact absurd hm (by decide)
  have h1 : once.telemetry.sample = some sample.sanitized := rfl
  have h2 : twice.telemetry.sample = some sample.sanitized := rfl
  refine ⟨rfl, rfl, fun h => ?_, fun h => ?_⟩
  · exact hm (Option.some.inj (h1.symm.trans h.1))
  · exact hm (Option.some.inj (h2.symm.trans h.1))

end Session

end ServerConsole

import ServerConsole.Proofs.Session.Cleared

/-!
# Telemetry along a run

Samples, status frames and power calls write the telemetry, each on its own path. Together they keep
it in step with the status shown.

* `Halts`                a completion that tells that the server has stopped, and is taken as such;
* `Shows`, `shows`       everything an input can do to the status shown and to the telemetry; later
                         proofs go by these cases;
* `Telemetry.Sound`      nothing but a sample is stale; every run keeps this;
* `Renews`, `Unrenewed`  the inputs after which a sample that was forgotten may be there again, and
                         the runs without them;
* `telemetry_follows`    what the telemetry is after each input, in every run.
-/

namespace ServerConsole

/-! ## definitions -/

/-- only a sample that is there can be stale -/
def Telemetry.Sound (t : Telemetry) : Prop := t.stale = true → t.sample.isSome = true

namespace Session

/-- a kill has succeeded, or the stop that the power machine waits for -/
def Halts (s : Session) (c : Completion) : Prop :=
  c.failure = none ∧
    (c.action = .kill ∨ (c.action = .stop ∧ s.power.phase.awaited? = some (c.ticket, .stop)))

/-- the input has a call of an action begun -/
def Begins (s : Session) (i : Input) (a : PowerAction) : Prop :=
  ∃ t, Effect.call t a ∈ (s.feed i).2

/-- a sample or a status comes in, the server is known to have stopped, or a start is begun -/
def Renews (s : Session) (i : Input) : Prop :=
  (∃ x, i = .operation (.hear (.frame (.stats x)))) ∨
  (∃ status, i = .operation (.hear (.frame (.status status)))) ∨
  (∃ c, i = .completion c ∧ s.Halts c) ∨ s.Begins i .start

/-- no input of the run renews the telemetry -/
def Unrenewed (s : Session) : List Input → Prop
  | [] => True
  | i :: is => ¬ s.Renews i ∧ (s.feed i).1.Unrenewed is

/-- neither a sample nor a status, and nothing of the power machine -/
def Input.isPlain : Input → Bool
  | .operation (.hear (.frame (.stats _))) => false
  | .operation (.hear (.frame (.status _))) => false
  | .operation (.request _) => false
  | .operation .close => false
  | .operation _ => true
  | .completion _ => false

/-- everything an input other than the end can do to the status shown and to the telemetry -/
inductive Shows (s : Session) (i : Input) : Status → Telemetry → List Effect → Prop
  | samples (x : Sample) (hi : i = .operation (.hear (.frame (.stats x)))) :
      Shows s i s.status (s.telemetry.update x) []
  | confirms (status : Status) (hi : i = .operation (.hear (.frame (.status status)))) :
      Shows s i status
        (if s.status ≠ status ∧ status.clearsTelemetry = true then s.telemetry.reset
          else s.telemetry) []
  /-- the connection is lost or refused -/
  | loses (e : Link.Event) (hi : i = .operation (.hear e)) :
      Shows s i s.status s.telemetry.markStale []
  | starts (t : Power.Ticket) (hi : i = .operation (.request .start)) :
      Shows s i s.status s.telemetry.reset [.call t .start]
  | restarts (t : Power.Ticket) (hi : i = .operation (.request .restart)) :
      Shows s i s.status s.telemetry.forget [.call t .restart]
  | halts (c : Completion) (hi : i = .completion c) (hc : s.Halts c) :
      Shows s i (s.view.assume .stopped).1.effective s.telemetry.reset []
  /-- a start or restart has succeeded -/
  | resumes (c : Completion) (hi : i = .completion c) (hc : ¬ s.Halts c) :
      Shows s i (s.view.assume .running).1.effective s.telemetry []
  | passes (es : List Effect) (hs : ∀ t, Effect.call t .start ∉ es)
      (hr : ∀ t, Effect.call t .restart ∉ es) (hc : ∀ c, i = .completion c → ¬ s.Halts c) :
      Shows s i s.status s.telemetry es

/-! ## one input -/

theorem Shows.idle {s : Session} {op : Operation} :
    Shows s (.operation op) s.status s.telemetry [] :=
  .passes [] (fun _ h => by cases h) (fun _ h => by cases h) (fun _ h => by cases h)

/-- a request resets or forgets the telemetry ahead of the call of a start or restart -/
theorem shows_requested (s : Session) (a : PowerAction) :
    Shows s (.operation (.request a)) (s.stepPower (.requested a)).1.status
      (s.stepPower (.requested a)).1.telemetry (s.stepPower (.requested a)).2 := by
  rw [stepPower_eq]
  show Shows s _ (StatusView.effective (((s.power.request a s.status).2).foldl viewed s.view))
    (((s.power.request a s.status).2).foldl measured s.telemetry)
    (((s.power.request a s.status).2).filterMap callOf?)
  rcases s.power.request_cases a s.status with ⟨_, hr⟩ | ⟨_, hl, hr⟩ | ⟨_, _, hr⟩
  · rw [hr]
    exact .passes [.call s.power.nextTicket .kill] (fun t h => by simp at h)
      (fun t h => by simp at h) (fun _ h => by cases h)
  · rw [hr]
    cases a with
    | start => exact .starts _ rfl
    | stop =>
      exact .passes [.call s.power.nextTicket .stop] (fun t h => by simp at h)
        (fun t h => by simp at h) (fun _ h => by cases h)
    | restart => exact .restarts _ rfl
    | kill => cases hl
  · rw [hr]
    exact .idle

/-- a completion changes the status shown and the telemetry together -/
theorem shows_completed (s : Session) (c : Completion) :
    Shows s (.completion c) (s.stepPower (.completed c.ticket c.action c.failure)).1.status
      (s.stepPower (.completed c.ticket c.action c.failure)).1.telemetry
      (s.stepPower (.completed c.ticket c.action c.failure)).2 := by
  -- a completion that is not one of a success shows nothing new
  have pass : ¬ s.Halts c → Shows s (.completion c) s.status s.telemetry [] := fun hn =>
    .passes [] (fun _ h => by cases h) (fun _ h => by cases h)
      (fun d hd => by cases hd; exact hn)
  rw [stepPower_eq]
  show Shows s _
    (StatusView.effective (((s.power.complete c.ticket c.action c.failure).2).foldl viewed s.view))
    (((s.power.complete c.ticket c.action c.failure).2).foldl measured s.telemetry)
    (((s.power.complete c.ticket c.action c.failure).2).filterMap callOf?)
  obtain ⟨t, a, f⟩ := c
  rcases s.power.complete_cases t a f with ⟨hk, hr⟩ | ⟨hw, hr⟩ | ⟨hk, hw, hr⟩
  · rw [hr]
    cases f with
    | none => exact .halts _ rfl ⟨rfl, .inl hk⟩
    | some reason => exact pass fun h => by cases h.1
  · rw [hr]
    cases f with
    | some reason => exact pass fun h => by cases h.1
    | none =>
      cases a with
      | start | restart =>
        refine .resumes _ rfl fun h => ?_
        rcases h.2 with h | ⟨h, _⟩ <;> cases h
      | stop => exact .halts _ rfl ⟨rfl, .inr ⟨rfl, hw⟩⟩
      | kill => exact absurd rfl (Power.Phase.ne_kill_of_awaited hw)
  · rw [hr]
    refine pass fun h => ?_
    rcases h.2 with h | ⟨rfl, h⟩
    · exact hk h
    · exact hw h

/-- an event of the channel, whatever state the channel is in by then -/
theorem shows_handleLink (s : Session) (link : Link) (e : Link.Event) :
    Shows s (.operation (.hear e)) ({ s with link := link }.handleLink e).status
      ({ s with link := link }.handleLink e).telemetry [] := by
  cases e with
  | opened reconnected => cases reconnected <;> exact .idle
  | frame f =>
    cases f with
    | console line color daemon => exact .idle
    | stats x => exact .samples x rfl
    | status status =>
      show Shows s _ ({ s with link := link }.confirm status).status
        ({ s with link := link }.confirm status).telemetry []
      rw [status_confirm, telemetry_confirm]
      exact .confirms status rfl
    | error message => exact .idle
  | rejected reason => exact .loses _ rfl
  | lost reason => exact .loses _ rfl
  | gaveUp attempts => exact .loses _ rfl
  | reconnecting attempt delay => exact .idle
  | closed => exact .idle

/-- what an input of an open session does to the status shown and to the telemetry -/
theorem shows {s : Session} (ho : s.closed = false) {i : Input}
    (hi : i ≠ .operation .close) :
    Shows s i (s.feed i).1.status (s.feed i).1.telemetry (s.feed i).2 := by
  cases i with
  | completion c =>
    show Shows s _ (s.receive (.power c)).1.status (s.receive (.power c)).1.telemetry
      (s.receive (.power c)).2
    rw [receive_power_of_open ho]
    exact s.shows_completed c
  | operation op =>
    cases op with
    | submit typed =>
      obtain ⟨log, history, hs, he⟩ := s.submit_frame typed
      show Shows s _ (s.submit typed).session.status (s.submit typed).session.telemetry
        (s.submit typed).effects
      rw [hs]
      rcases he with he | ⟨c, he, _⟩
      · rw [he]
        exact .idle
      · rw [he]
        exact .passes [.queue c] (fun _ h => by simp at h) (fun _ h => by simp at h)
          (fun _ h => by cases h)
    | request a =>
      show Shows s _ (s.request a).session.status (s.request a).session.telemetry
        (s.request a).effects
      by_cases hp : s.can (s.amounts a).permission = true
      · rw [request_of_can ho hp]
        exact s.shows_requested a
      · rw [request_of_cannot ho (eq_false_of_ne_true hp)]
        exact .idle
    | hear e =>
      show Shows s _ (s.receive (.link e)).1.status (s.receive (.link e)).1.telemetry
        (s.receive (.link e)).2
      by_cases ha : s.awaits (.link e) = true
      · rw [receive_link_of_awaits ha]
        exact s.shows_handleLink (s.link.observe e) e
      · have hr : s.receive (.link e) = (s, []) := by simp [receive, ha]
        rw [hr]
        exact .idle
    | revisit _ | detach | relabel _ => exact .idle
    | close => exact absurd rfl hi

/-! ## what an input leaves -/

section
variable {s : Session} {i : Input} {status : Status} {t : Telemetry} {es : List Effect}

/-- a status without a live run that is newly shown comes with a reset -/
theorem Shows.cleared (h : Shows s i status t es) (hn : status ≠ s.status)
    (hc : status.clearsTelemetry = true) : t.Cleared := by
  cases h with
  | confirms _ hi =>
    rw [if_pos ⟨hn.symm, hc⟩]
    exact Telemetry.cleared_reset _
  | halts c hi hh => exact Telemetry.cleared_reset _
  | resumes c hi hh =>
    rw [StatusView.effective_assume] at hc
    split at hc <;> cases hc
  | samples _ _ | loses _ _ | starts _ _ | restarts _ _ | passes _ _ _ _ => exact absurd rfl hn

theorem Shows.cleared_of_start (h : Shows s i status t es) {ticket : Power.Ticket}
    (hm : Effect.call ticket .start ∈ es) : t.Cleared := by
  cases h with
  | starts u hi => exact Telemetry.cleared_reset _
  | restarts u hi => simp at hm
  | passes _ hs hr hh => exact absurd hm (hs ticket)
  | samples _ _ | confirms _ _ | loses _ _ | halts _ _ _ | resumes _ _ _ => cases hm

theorem Shows.cleared_of_halts (h : Shows s i status t es) {c : Completion}
    (hi : i = .completion c) (hc : s.Halts c) : t.Cleared := by
  subst hi
  cases h with
  | halts d hi hh => exact Telemetry.cleared_reset _
  | resumes d hi hh =>
    cases hi
    exact absurd hc hh
  | passes _ hs hr hh => exact absurd hc (hh c rfl)
  | samples _ hi | confirms _ hi | loses _ hi | starts _ hi | restarts _ hi => cases hi

theorem Shows.forgotten_of_restart (h : Shows s i status t es) {ticket : Power.Ticket}
    (hm : Effect.call ticket .restart ∈ es) : t.sample = none := by
  cases h with
  | starts u hi => simp at hm
  | restarts u hi => rfl
  | passes _ hs hr hh => exact absurd hm (hr ticket)
  | samples _ _ | confirms _ _ | loses _ _ | halts _ _ _ | resumes _ _ _ => cases hm

/-- what is forgotten stays so without one of the four that renew it -/
theorem Shows.forgotten (h : Shows s i status t es) (hx : ∀ x, i ≠ .operation (.hear (.frame (.stats x))))
    (hf : ∀ status, i ≠ .operation (.hear (.frame (.status status))))
    (hh : ∀ c, i = .completion c → ¬ s.Halts c) (hs : ∀ u, Effect.call u .start ∉ es)
    (hn : s.telemetry.sample = none) : t.sample = none := by
  cases h with
  | samples x hi => exact absurd hi (hx x)
  | confirms _ hi => exact absurd hi (hf _)
  | starts u hi => exact absurd (List.mem_singleton_self _) (hs u)
  | halts c hi hc => exact absurd hc (hh c hi)
  | restarts _ _ => rfl
  | loses _ _ | resumes _ _ _ | passes _ _ _ _ => exact hn

/-- only samples, statuses and the power machine touch the sample -/
theorem Shows.sample_of_plain (h : Shows s i status t es) (hi : i.isPlain = true) :
    t.sample = s.telemetry.sample := by
  cases h with
  | loses _ _ | resumes _ _ _ | passes _ _ _ _ => rfl
  | samples _ h | confirms _ h | starts _ h | restarts _ h | halts _ h _ =>
    rw [h] at hi
    cases hi

/-- every change of the telemetry leaves a stale flag only where a sample is -/
theorem Shows.sound (h : Shows s i status t es) (hs : s.telemetry.Sound) : t.Sound := by
  cases h with
  | samples _ _ | starts _ _ | restarts _ _ | halts _ _ _ => exact fun h => by cases h
  | confirms _ hi =>
    split
    · exact fun h => by cases h
    · exact hs
  | loses e hi =>
    intro h
    have h' : (s.telemetry.stale || s.telemetry.sample.isSome) = true := h
    rcases Bool.or_eq_true_iff.mp h' with h' | h'
    · exact hs h'
    · exact h'
  | resumes _ _ _ | passes _ _ _ _ => exact hs

end

/-! ## every run -/

theorem telemetry_feed_of_closed {s : Session} (h : s.closed = true) (i : Input) :
    (s.feed i).1.telemetry = s.telemetry := by
  cases i with
  | completion c =>
    show (s.receive (.power c)).1.telemetry = _
    rw [receive_of_closed h]
  | operation op =>
    cases op with
    | submit typed =>
      obtain ⟨_, _, hs, _⟩ := s.submit_frame typed
      show (s.submit typed).session.telemetry = _
      rw [hs]
    | request a =>
      show (s.request a).session.telemetry = _
      rw [request_of_closed h]
    | hear e =>
      show (s.receive (.link e)).1.telemetry = _
      rw [receive_of_closed h]
    | revisit _ | detach | relabel _ => rfl
    | close =>
      show s.close.telemetry = _
      simp [close, h]

/-- what is true of the telemetry of a session that has ended, and what each change of an open one
keeps, a run keeps -/
theorem telemetry_feed {P : Telemetry → Prop} (hu : P .unknown) {s : Session} {i : Input}
    (hs : P s.telemetry) (step : s.closed = false → i ≠ .operation .close → P (s.feed i).1.telemetry) :
    P (s.feed i).1.telemetry := by
  by_cases hc : s.closed = true
  · rw [telemetry_feed_of_closed hc]
    exact hs
  · by_cases hi : i = .operation .close
    · subst hi
      show P s.close.telemetry
      simpa [close, hc] using hu
    · exact step (eq_false_of_ne_true hc) hi

theorem sound_opening (o : Opening) : o.session.telemetry.Sound := by
  have ha : o.assembled.telemetry.Sound := by
    show (if o.server.status.clearsTelemetry = true then Telemetry.unknown.reset
      else Telemetry.unknown).Sound
    split <;> exact fun h => by cases h
  have hc : ∀ status, (o.assembled.confirm status).telemetry.Sound := by
    intro status
    rw [telemetry_confirm]
    split
    · exact fun h => by cases h
    · exact ha
  unfold Opening.session
  split
  · next r _ =>
    unfold seed
    cases r.sample with
    | none => exact hc r.status
    | some x =>
      dsimp only
      split
      · exact hc r.status
      · exact fun h => by cases h
  · exact ha

theorem sound_run (o : Opening) (is : List Input) : (o.session.run is).1.telemetry.Sound :=
  run_of_feed (P := fun s => s.telemetry.Sound)
    (fun _ _ hs => telemetry_feed (fun h => by cases h) hs fun ho hi => (shows ho hi).sound hs)
    (sound_opening o) is

theorem forgotten_run {s : Session} (hn : s.telemetry.sample = none) {is : List Input}
    (hu : s.Unrenewed is) : (s.run is).1.telemetry.sample = none := by
  induction is generalizing s with
  | nil => exact hn
  | cons i is ih =>
    obtain ⟨hi, his⟩ := hu
    refine ih ?_ his
    refine telemetry_feed (P := fun t => t.sample = none) rfl hn fun ho hcl => ?_
    exact (shows ho hcl).forgotten (fun x h => hi (.inl ⟨x, h⟩))
      (fun status h => hi (.inr (.inl ⟨status, h⟩)))
      (fun c h hc => hi (.inr (.inr (.inl ⟨c, h, hc⟩))))
      (fun u h => hi (.inr (.inr (.inr ⟨u, h⟩)))) hn

/-- a load that is negative or no finite number counts as none -/
theorem sanitized_eq (x : Sample) : x.sanitized =
    { x with cpu := if x.cpu.isFinite = true ∧ ¬ x.cpu < 0 then x.cpu else 0 } := by
  unfold Sample.sanitized
  by_cases hf : x.cpu.isFinite = true <;> by_cases hn : x.cpu < 0 <;> simp [hf, hn]

/-- **Telemetry follows the status and the power calls.** In every open session that a run leads to
only a sample is stale, and after one more input, the end apart: a status without a live run that is
newly shown has the telemetry cleared; so have a start that is begun, and a stop or kill that has
succeeded; a restart that is begun has it forgotten, until one of four things renews it; a sample is
kept as it came, without a load that is no load; and nothing else touches the sample. -/
theorem telemetry_follows (o : Opening) (is : List Input)
    (ho : (o.session.run is).1.closed = false) :
    let s := (o.session.run is).1
    (s.telemetry.stale = true → s.telemetry.sample.isSome = true) ∧
    ∀ i : Input, i ≠ .operation .close →
      let after := (s.feed i).1
      (after.status ≠ s.status → after.status = .stopped ∨ after.status = .installing →
        after.telemetry.Cleared) ∧
      (s.Begins i .start ∨ (∃ c, i = .completion c ∧ s.Halts c) → after.telemetry.Cleared) ∧
      (s.Begins i .restart →
        ∀ js, after.Unrenewed js → (after.run js).1.telemetry.sample = none) ∧
      (∀ x, i = .operation (.hear (.frame (.stats x))) → s.link.isClosed = false →
        after.telemetry.stale = false ∧
        after.telemetry.sample = some
          { x with cpu := if x.cpu.isFinite = true ∧ ¬ x.cpu < 0 then x.cpu else 0 }) ∧
      (i.isPlain = true → after.telemetry.sample = s.telemetry.sample) := by
  intro s
  refine ⟨sound_run o is, fun i hi => ?_⟩
  have h := shows (s := s) ho hi
  refine ⟨fun hn hc => ?_, ?_, ?_, ?_, h.sample_of_plain⟩
  · refine h.cleared hn ?_
    rcases hc with hc | hc <;> rw [hc] <;> rfl
  · rintro (⟨t, hm⟩ | ⟨c, hc, hh⟩)
    · exact h.cleared_of_start hm
    · exact h.cleared_of_halts hc hh
  · rintro ⟨t, hm⟩ js hu
    exact forgotten_run (h.forgotten_of_restart hm) hu
  · rintro x rfl hl
    have ha : s.awaits (.link (.frame (.stats x))) = true := by
      simp [awaits, hl, show s.closed = false from ho]
    have hr : (s.feed (.operation (.hear (.frame (.stats x))))).1.telemetry = s.telemetry.update x := by
      show (s.receive (.link _)).1.telemetry = _
      rw [receive_link_of_awaits ha]
      rfl
    rw [hr, ← sanitized_eq]
    exact ⟨rfl, rfl⟩

/-- a sample comes in, a restart is begun, and its call succeeds -/
theorem telemetry_follows_restart :
    let s := ((Opening.plain .running .everything).session.run
      [.operation (.hear (.opened false)), .operation (.hear (.frame (.stats .empty)))]).1
    let restart : Input := .operation (.request .restart)
    let done : Input := .completion ⟨1, .restart, none⟩
    s.closed = false ∧ s.telemetry.sample.isSome = true ∧ restart ≠ .operation .close ∧
      s.Begins restart .restart ∧ (s.feed restart).1.Unrenewed [done] ∧
      ((s.feed restart).1.run [done]).1.telemetry.sample = none := by
  intro s restart done
  have hi : Input.operation (.request .restart) ≠ .operation .close := fun h => by cases h
  have hb : s.Begins restart .restart := ⟨1, List.mem_singleton_self _⟩
  have hn : ¬ (s.feed restart).1.Renews (.completion ⟨1, .restart, none⟩) := by
    rintro (⟨_, h⟩ | ⟨_, h⟩ | ⟨_, h, hh⟩ | ⟨_, h⟩)
    · cases h
    · cases h
    · cases h
      rcases hh.2 with h | ⟨h, _⟩ <;> cases h
    · cases h
  have h := telemetry_follows (.plain .running .everything)
    [.operation (.hear (.opened false)), .operation (.hear (.frame (.stats .empty)))] rfl
  exact ⟨rfl, rfl, hi, hb, ⟨hn, trivial⟩, (h.2 restart hi).2.2.1 hb [done] ⟨hn, trivial⟩⟩

end Session

end ServerConsole

import ServerConsole.Proofs.Link.Standing
import ServerConsole.Proofs.Session.Telemetry

/-!
# A session during an outage

The session takes the events of the task in order, and between two of them anything else may reach it.

* `heard`            the events of the channel among the inputs of a run;
* `Telemetry.Outdated`  no sample that could be taken for a live one;
* `Steady`           the reason is there while the channel has failed, and the telemetry is void
                     while it is away; every input of an orderly run keeps this;
* `outage_safe`      what the owner is shown in every run.
-/

namespace ServerConsole

/-! ## definitions -/

/-- nothing known, the empty sample, or one that is marked as old -/
def Telemetry.Outdated (t : Telemetry) : Prop :=
  t.sample = none ∨ t.sample = some .empty ∨ t.stale = true

namespace Session

def Input.heard? : Input → Option Link.Event
  | .operation (.hear e) => some e
  | _ => none

/-- the events of the channel among the inputs, in order -/
def heard (is : List Input) : List Link.Event := is.filterMap Input.heard?

structure Steady (s : Session) : Prop where
  error : s.link.error.isSome = true ↔ s.link.state = .failed
  outdated : s.link.state = .reconnecting ∨ s.link.state = .failed → s.telemetry.Outdated

theorem heard?_eq_some {i : Input} {e : Link.Event} (h : i.heard? = some e) :
    i = .operation (.hear e) := by
  cases i with
  | completion c => cases h
  | operation op =>
    cases op with
    | hear x => rw [Option.some.inj h]
    | submit _ | request _ | revisit _ | detach | relabel _ | close => cases h

/-! ## one input -/

theorem outdated_markStale (t : Telemetry) : t.markStale.Outdated := by
  cases h : t.sample with
  | none => exact .inl h
  | some x => exact .inr (.inr (by simp [Telemetry.markStale, h]))

/-- what does not come from the channel leaves outdated telemetry outdated -/
theorem Shows.outdated {s : Session} {i : Input} {status : Status} {t : Telemetry}
    {es : List Effect} (h : Shows s i status t es) (hi : i.heard? = none)
    (hs : s.telemetry.Outdated) : t.Outdated := by
  cases h with
  | starts _ _ | halts _ _ _ => exact .inr (.inl rfl)
  | restarts _ _ => exact .inl rfl
  | resumes _ _ _ | passes _ _ _ _ => exact hs
  | samples _ h | confirms _ h | loses _ h =>
    rw [h] at hi
    cases hi

/-- only the channel's events and the end change what the channel shows -/
theorem link_feed {s : Session} {i : Input} (hi : i.heard? = none) (hc : i ≠ .operation .close) :
    (s.feed i).1.link.state = s.link.state ∧ (s.feed i).1.link.error = s.link.error := by
  cases i with
  | completion c =>
    obtain ⟨_, _, _, _, h⟩ := s.complete_frame c
    show (s.receive (.power c)).1.link.state = _ ∧ (s.receive (.power c)).1.link.error = _
    rw [h]
    exact ⟨rfl, rfl⟩
  | operation op =>
    cases op with
    | submit typed =>
      obtain ⟨_, _, h, _⟩ := s.submit_frame typed
      show (s.submit typed).session.link.state = _ ∧ (s.submit typed).session.link.error = _
      rw [h]
      exact ⟨rfl, rfl⟩
    | request a =>
      obtain ⟨_, _, _, _, h⟩ := s.request_frame a
      show (s.request a).session.link.state = _ ∧ (s.request a).session.link.error = _
      rw [h]
      exact ⟨rfl, rfl⟩
    | hear e => cases hi
    | revisit _ | detach | relabel _ => exact ⟨rfl, rfl⟩
    | close => exact absurd rfl hc

/-- an event that may come is taken -/
theorem hear_of_admits {s : Session} (ho : s.closed = false) {e : Link.Event}
    (ha : s.link.state.admits e = true) :
    s.feed (.operation (.hear e)) =
      ({ s with link := s.link.observe e }.handleLink e, []) := by
  refine receive_link_of_awaits ?_
  have hl : s.link.isClosed = false := by
    simpa [Link.isClosed] using (Link.State.ne_of_admits ha).2
  simp [awaits, ho, hl]

theorem link_handleLink (s : Session) (e : Link.Event) : (s.handleLink e).link = s.link := by
  obtain ⟨_, _, _, _, h⟩ := s.handleLink_frame e
  rw [h]

theorem link_hear {s : Session} (ho : s.closed = false) {e : Link.Event}
    (ha : s.link.state.admits e = true) :
    (s.feed (.operation (.hear e))).1.link = s.link.observe e := by
  rw [hear_of_admits ho ha]
  exact link_handleLink _ e

theorem state_hear {s : Session} (ho : s.closed = false) {e : Link.Event}
    (ha : s.link.state.admits e = true) :
    (s.feed (.operation (.hear e))).1.link.state = s.link.state.observe e := by
  rw [link_hear ho ha]
  exact Link.state_observe _ _

/-- an event that may come keeps a session steady -/
theorem steady_hear {s : Session} (hs : s.Steady) (ho : s.closed = false) {e : Link.Event}
    (ha : s.link.state.admits e = true) : (s.feed (.operation (.hear e))).1.Steady := by
  obtain ⟨herr, hout⟩ := hs
  -- while events come the channel has not failed, so no reason is left over
  have hn : s.link.error.isSome = false :=
    eq_false_of_ne_true fun h => (Link.State.ne_of_admits ha).1 (herr.mp h)
  constructor
  · rw [link_hear ho ha]
    cases e with
    | opened r => exact ⟨nofun, nofun⟩
    | frame f => exact herr
    | rejected reason => exact ⟨fun _ => rfl, fun _ => rfl⟩
    | gaveUp attempts => exact ⟨fun _ => rfl, fun _ => rfl⟩
    | lost _ | reconnecting _ _ | closed =>
      show s.link.error.isSome = true ↔ _
      rw [hn]
      exact ⟨nofun, nofun⟩
  · rw [link_hear ho ha, hear_of_admits ho ha]
    intro h
    cases e with
    | opened r => rcases h with h | h <;> cases h
    | frame f =>
      have h' : s.link.state = .reconnecting ∨ s.link.state = .failed := h
      rw [Link.State.eq_connected_of_admits ha] at h'
      rcases h' with h' | h' <;> cases h'
    | rejected _ | lost _ | gaveUp _ => exact outdated_markStale s.telemetry
    | reconnecting k d => exact hout (.inl (Link.State.eq_reconnecting_of_admits ha))
    | closed => rcases h with h | h <;> cases h

/-- what does not come from the channel keeps a session steady -/
theorem steady_feed {s : Session} (hs : s.Steady) (ho : s.closed = false) {i : Input}
    (hi : i.heard? = none) (hc : i ≠ .operation .close) : (s.feed i).1.Steady := by
  obtain ⟨h1, h2⟩ := link_feed (s := s) hi hc
  constructor
  · rw [h1, h2]
    exact hs.error
  · rw [h1]
    exact fun h => (shows ho hc).outdated hi (hs.outdated h)

/-! ## every run -/

theorem steady_opening (o : Opening) : o.session.Steady ∧ o.session.link.state = .connecting := by
  obtain ⟨server, view, telemetry, h⟩ := o.session_frame
  rw [h]
  refine ⟨⟨⟨nofun, nofun⟩, ?_⟩, rfl⟩
  rintro (h | h) <;> cases h

theorem steady_run {s : Session} (hs : s.Steady) {is : List Input}
    (ho : (s.run is).1.closed = false) (hor : Link.Orderly s.link.state (heard is)) :
    (s.run is).1.Steady ∧
      (s.run is).1.link.state = (heard is).foldl Link.State.observe s.link.state := by
  induction is generalizing s with
  | nil => exact ⟨hs, rfl⟩
  | cons i is ih =>
    obtain ⟨hos, hc, hoi⟩ := open_of_run_cons ho
    rw [run_cons] at ho ⊢
    cases hi : i.heard? with
    | none =>
      have hh : heard (i :: is) = heard is := List.filterMap_cons_none hi
      rw [hh] at hor ⊢
      rw [← (link_feed (s := s) hi hc).1] at hor ⊢
      exact ih (steady_feed hs hos hi hc) ho hor
    | some e =>
      have hh : heard (i :: is) = e :: heard is := List.filterMap_cons_some hi
      rw [hh] at hor ⊢
      obtain ⟨ha, hor⟩ := hor
      obtain rfl := heard?_eq_some hi
      have hl := state_hear hos ha
      rw [List.foldl_cons, ← hl]
      rw [← hl] at hor
      exact ih (steady_hear hs hos ha) ho hor

/-- **An outage is never taken for a live run.** Let a session take the first events of a task in
their order, with anything else in between. As long as it is open: a channel that has failed stays
so; the reason is shown exactly while it has failed; it is up exactly from an opened socket to the
next loss, unless the task was stopped; and while it is away the telemetry is unknown, empty or
marked as old. -/
theorem outage_safe (o : Opening) (p : Link.Policy) (hs : List Link.Happening)
    (is js : List Input) (hh : heard (is ++ js) <+: Link.Task.reports p hs)
    (ho : (o.session.run (is ++ js)).1.closed = false) :
    let s := (o.session.run is).1
    (s.link.state = .failed → (o.session.run (is ++ js)).1.link.state = .failed) ∧
    (s.link.error.isSome = true ↔ s.link.state = .failed) ∧
    (s.link.state = .connected ↔ .closed ∉ heard is ∧ Link.OpenSince (heard is)) ∧
    (s.link.state = .reconnecting ∨ s.link.state = .failed →
      s.telemetry.sample = none ∨ s.telemetry.sample = some .empty ∨ s.telemetry.stale = true) := by
  intro s
  obtain ⟨hst, hn⟩ := steady_opening o
  have hor : Link.Orderly o.session.link.state (heard is ++ heard js) := by
    rw [hn, heard, heard, ← List.filterMap_append]
    exact (Link.orderly_reports p hs).first_part hh
  obtain ⟨hi, hj⟩ := (Link.orderly_append _ _ _).mp hor
  have hos : s.closed = false := by
    rw [run_append] at ho
    exact open_of_run ho
  obtain ⟨hs1, hl1⟩ := steady_run hst hos hi
  refine ⟨fun hf => ?_, hs1.error, ?_, hs1.outdated⟩
  · rw [run_append] at ho ⊢
    rw [← hl1] at hj
    have hnil : heard js = [] := hj.eq_nil (.inl hf)
    rw [(steady_run hs1 ho hj).2, hnil]
    exact hf
  · rw [hl1, Link.connected_iff hi, hn]
    exact and_congr_right fun _ => or_iff_right fun h => by cases h.1

/-- a socket breaks, and while it is away a kill is asked for and succeeds -/
theorem outage_safe_kill :
    let hs : List Link.Happening := [.connected, .broken .reset]
    let is : List Input := [.operation (.hear (.opened false)), .operation (.request .kill),
      .operation (.hear (.lost Link.SocketError.reset.message)), .completion ⟨1, .kill, none⟩]
    let s := ((Opening.plain .running .everything).session.run is).1
    heard (is ++ []) <+: Link.Task.reports .standard hs ∧
    ((Opening.plain .running .everything).session.run (is ++ [])).1.closed = false ∧
    s.link.state = .reconnecting ∧ s.telemetry.stale = false ∧
    (s.telemetry.sample = none ∨ s.telemetry.sample = some .empty ∨ s.telemetry.stale = true) := by
  intro hs is s
  have hh : heard (is ++ []) <+: Link.Task.reports .standard hs := ⟨[.reconnecting 1 _], rfl⟩
  have h := outage_safe (.plain .running .everything) .standard hs is [] hh rfl
  exact ⟨hh, rfl, rfl, rfl, h.2.2.2 (.inl rfl)⟩

end Session

end ServerConsole
